import ParserCombinators.Failure.Structure
import ParserCombinators.Grammar.BracketTree
import ParserCombinators.Grammar.Calculator
import ParserCombinators.Grammar.Records
import ParserCombinators.Grammar.Tokens
import ParserCombinators.Parser.Fuel
import ParserCombinators.Script.Term
import ParserCombinators.Proofs.Movement
import ParserCombinators.Proofs.Pattern.Match
import ParserCombinators.Proofs.Reading
import ParserCombinators.Proofs.Outcome
import ParserCombinators.Proofs.Safety
import ParserCombinators.Proofs.GrammarSafety
import ParserCombinators.Proofs.Termination
import ParserCombinators.Proofs.GrammarTermination
import ParserCombinators.Proofs.Ending
import ParserCombinators.Proofs.ErrorHandling
import ParserCombinators.Proofs.Pattern.Run
import ParserCombinators.Proofs.Calculator.Number
import ParserCombinators.Proofs.Calculator.Phrase
import ParserCombinators.Proofs.Rules
import ParserCombinators.Proofs.Calculator.Token
import ParserCombinators.Proofs.Calculator.Recognition
import ParserCombinators.Proofs.Calculator.Expression
import ParserCombinators.Proofs.Calculator.Program
import ParserCombinators.Proofs.Calculator.Termination
import ParserCombinators.Proofs.Calculator.Evaluation
import ParserCombinators.Proofs.Failure.Parts
import ParserCombinators.Proofs.Failure.Shape
import ParserCombinators.Proofs.Failure.Shifted
import ParserCombinators.Proofs.Pattern.Lookahead
import ParserCombinators.Proofs.Shift
import ParserCombinators.Proofs.Spelling
import ParserCombinators.Proofs.Calculator.Reach
import ParserCombinators.Proofs.Calculator.Leftover
import ParserCombinators.Proofs.Words
import ParserCombinators.Proofs.Records
import ParserCombinators.Proofs.BracketTree
import ParserCombinators.Proofs.Tokens
import ParserCombinators.Proofs.Label.Account
import ParserCombinators.Proofs.Label.Scope
import ParserCombinators.Proofs.Failure.Explanation
import ParserCombinators.Proofs.Failure.Regrouping
import ParserCombinators.Proofs.Repetition
import ParserCombinators.Proofs.Calls
import ParserCombinators.Proofs.Separation
import ParserCombinators.Proofs.Equations
import ParserCombinators.Proofs.Approximation
import ParserCombinators.Proofs.Recursion
import ParserCombinators.Proofs.Sequencing
import ParserCombinators.Proofs.Alternatives
import ParserCombinators.Proofs.Calculator.Diagnosis
import ParserCombinators.Proofs.Failure.Furthest
import ParserCombinators.Proofs.Failure.Drawing
import ParserCombinators.Proofs.Failure.Sources
import ParserCombinators.Proofs.Text.Escape
import ParserCombinators.Proofs.Text.Column
