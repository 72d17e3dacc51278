/-
This file reads numbers and lower case words with white space between them.
-/

import ParserCombinators.Parser.Basic
import ParserCombinators.Reader.Integer

namespace ParserCombinators.Tokens

open ParserCombinators.Parser

inductive Token
  | number (value : Int)
  | word (text : String)
  deriving DecidableEq, Repr

/-- No rule is recursive, and nothing is remembered. -/
@[reducible] def signature : Signature := ⟨.text, Unit, Empty, fun _ => Unit⟩

def grammar : Grammar signature := fun rule => nomatch rule

def wordPattern : Pattern :=
  .ofExpression "[a-z]+" (.repetition 1 none true (.one .asciiLower))

/-- The expression of `wordPattern` is what its written form says. -/
theorem compile_wordPattern : Pattern.compile "[a-z]+" = some wordPattern :=
  Pattern.compile_eq_some (by decide +kernel)

def digits : Parser signature String := leaf (.pattern .digits)

def whiteSpace : Parser signature String := leaf (.pattern .whiteSpace)

/-- A number is a run of digits below two to the power 63. -/
def token : Parser signature Token :=
  choiceOf [
    map Token.number (parseAs (Reader.signed "i64" 64) digits),
    map Token.word (leaf (.pattern wordPattern))]

def tokens : Parser signature (List Token) := sepBy whiteSpace token

/-- Every round consumes a character, so one more round than there are characters is enough. -/
def fuel (text : String) : Nat := text.length + 1

def readToken (text : String) : Outcome .text Unit Token :=
  grammar.run (fuel text) token text.toList ()

def readTokens (text : String) : Outcome .text Unit (List Token) :=
  grammar.run (fuel text) tokens text.toList ()

end ParserCombinators.Tokens
