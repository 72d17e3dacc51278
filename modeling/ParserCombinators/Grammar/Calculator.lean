/-
This file reads and evaluates arithmetic expressions. A program is a list of expressions with
semicolons between them.
-/

import ParserCombinators.Parser.Basic
import ParserCombinators.Reader.Decimal

namespace ParserCombinators.Calculator

open ParserCombinators.Parser ParserCombinators.Text

inductive Operator
  | add
  | sub
  | mul
  | div
  deriving DecidableEq, Repr

def Operator.symbol : Operator → String
  | .add => "+"
  | .sub => "-"
  | .mul => "*"
  | .div => "/"

def Operator.name : Operator → String
  | .add => "Add"
  | .sub => "Sub"
  | .mul => "Mul"
  | .div => "Div"

/-- An operator is written as its symbol. -/
def Operator.read (text : String) : Option Operator :=
  if text = "+" then some .add
  else if text = "-" then some .sub
  else if text = "*" then some .mul
  else if text = "/" then some .div
  else none

/-- This is the answer to a text that is no symbol. -/
def Operator.unknownMessage : String := "Matching variant not found"

def Operator.reader : Reader Operator := ⟨"Operator", Operator.read⟩

/-- The grammar does not depend on what numbers are, on how their texts are read, or on what the
operators do. -/
structure Arithmetic (N : Type) where
  reader : Reader N
  apply : Operator → N → N → N

def applyFloat : Operator → Float → Float → Float
  | .add, left, right => left + right
  | .sub, left, right => left - right
  | .mul, left, right => left * right
  | .div, left, right => left / right

def floatArithmetic : Arithmetic Float := ⟨Reader.float, applyFloat⟩

/-- Only the expression is recursive. -/
inductive Rule
  | expression

@[reducible] def signature (N : Type) : Signature := ⟨.text, Unit, Rule, fun _ => N⟩

def whiteSpace {N : Type} : Parser (signature N) String := leaf (.pattern .whiteSpace)

def literal {N : Type} (expected : String) : Parser (signature N) String :=
  leaf (.literal expected)

/-- White space may follow every token. -/
def token {N A : Type} (parser : Parser (signature N) A) : Parser (signature N) A :=
  map Prod.fst (pair parser (optional whiteSpace))

/-- Digits with an optional fraction. -/
def numberExpression : Pattern.Expression :=
  let digits : Pattern.Expression := .repetition 1 none true (.one .asciiDigit)
  let fraction : Pattern.Expression := .group 12 (.append (.text ['.']) digits)
  .append digits (.repetition 0 (some 1) true fraction)

def numberPattern : Pattern := .ofExpression "[0-9]+(\\.[0-9]+)?" numberExpression

/-- The expression of `numberPattern` is what its written form says. -/
theorem compile_numberPattern : Pattern.compile "[0-9]+(\\.[0-9]+)?" = some numberPattern :=
  Pattern.compile_eq_some (by decide +kernel)

def operator {N : Type} (first second : Operator) : Parser (signature N) Operator :=
  token (parseAs Operator.reader (choiceOf [literal first.symbol, literal second.symbol]))

/-- Operators of one level are applied from left to right. -/
def foldLeft {N : Type} (arithmetic : Arithmetic N) (operands : N × List (Operator × N)) : N :=
  operands.2.foldl (fun left step => arithmetic.apply step.1 left step.2) operands.1

/-- Operands of one level with operators between them. -/
def level {N : Type} (arithmetic : Arithmetic N) (operator : Parser (signature N) Operator)
    (operand : Parser (signature N) N) : Parser (signature N) N :=
  map (foldLeft arithmetic) (pair operand (many (pair operator operand)))

def number {N : Type} (arithmetic : Arithmetic N) : Parser (signature N) N :=
  token (parseAs arithmetic.reader (leaf (.pattern numberPattern)))

/-- A factor is a number or an expression in parentheses. -/
def factor {N : Type} (arithmetic : Arithmetic N) : Parser (signature N) N :=
  label "factor"
    (choiceOf [
      number arithmetic,
      between (token (literal "(")) (token (literal ")")) (rule Rule.expression)])

def term {N : Type} (arithmetic : Arithmetic N) : Parser (signature N) N :=
  level arithmetic (operator .mul .div) (factor arithmetic)

def expression {N : Type} (arithmetic : Arithmetic N) : Parser (signature N) N :=
  level arithmetic (operator .add .sub) (term arithmetic)

def program {N : Type} (arithmetic : Arithmetic N) : Parser (signature N) (List N) :=
  map Prod.snd
    (pair (optional whiteSpace) (sepBy (token (literal ";")) (expression arithmetic)))

def grammar {N : Type} (arithmetic : Arithmetic N) : Grammar (signature N)
  | .expression => expression arithmetic

/-- Every nested expression and every round consumes a character, so this much fuel is enough. -/
def fuel (text : String) : Nat := text.length + 2

def readExpression {N : Type} (arithmetic : Arithmetic N) (text : String) :
    Outcome .text Unit N :=
  (grammar arithmetic).run (fuel text) (expression arithmetic) text.toList ()

def readProgram {N : Type} (arithmetic : Arithmetic N) (text : String) :
    Outcome .text Unit (List N) :=
  (grammar arithmetic).run (fuel text) (program arithmetic) text.toList ()

/-- Text that no expression covers is left over. -/
def leftover (cursor : Cursor .text) : Failure :=
  .newAt (.custom "end of input") ("unexpected " ++ quoteText cursor.found) cursor.index

/-- The program must cover the whole text. -/
def evaluate {N : Type} (arithmetic : Arithmetic N) (text : String) :
    Outcome .text Unit (List N) :=
  (readProgram arithmetic text).andThen fun cursor values session =>
    if cursor.isEnd then .success cursor values session
    else .failure (leftover cursor) session

end ParserCombinators.Calculator
