/-
This file defines the grammar of arithmetic programs and the values of their expressions. It does
not mention parsers.
-/

import ParserCombinators.Grammar.Calculator

namespace ParserCombinators.Calculator

open ParserCombinators.Text

/-- One or more digits. -/
def IsDigits (text : List Char) : Prop :=
  text ≠ [] ∧ ∀ character ∈ text, isAsciiDigit character = true

/-- Any amount of white space, which may be none. -/
def IsSpace (text : List Char) : Prop := ∀ character ∈ text, isWhiteSpace character = true

/-- A number is written with digits and perhaps with a point and more digits. -/
inductive IsNumber : List Char → Prop
  | whole {digits : List Char} (isDigits : IsDigits digits) : IsNumber digits
  | decimal {digits fraction : List Char} (isDigits : IsDigits digits)
      (isFraction : IsDigits fraction) : IsNumber (digits ++ '.' :: fraction)

/-- A tree shows which operator applies to which operands. -/
inductive Tree
  | number (text : String)
  | operation (operator : Operator) (left right : Tree)

/-- A tree has a value when the reader reads all its numbers. -/
def Tree.value {N : Type} (arithmetic : Arithmetic N) : Tree → Option N
  | .number text => arithmetic.reader.read text
  | .operation operator left right => do
      let first ← left.value arithmetic
      let second ← right.value arithmetic
      some (arithmetic.apply operator first second)

/-- Products bind tighter than sums. -/
inductive Level
  | product
  | sum

def Level.operators : Level → List Operator
  | .product => [.mul, .div]
  | .sum => [.add, .sub]

/-- The steps of a level come after its first operand, whose tree is already known. -/
inductive Phrase
  | factor
  | level (level : Level)
  | steps (level : Level) (left : Tree)

/-- A product has factors as operands, and a sum has products. -/
def Level.operand : Level → Phrase
  | .product => .factor
  | .sum => .level .product

/-- A phrase is written in this way and has this tree. Each step of a level makes everything before
it the left operand. White space may follow every token. -/
inductive Derives : Phrase → List Char → Tree → Prop
  | number {number space : List Char} (isNumber : IsNumber number) (isSpace : IsSpace space) :
      Derives .factor (number ++ space) (.number (String.ofList number))
  | parentheses {before inner after : List Char} {tree : Tree} (isSpace : IsSpace before)
      (derives : Derives (.level .sum) inner tree) (isSpaceAfter : IsSpace after) :
      Derives .factor ('(' :: before ++ inner ++ ')' :: after) tree
  | level {level : Level} {first rest : List Char} {left tree : Tree}
      (operand : Derives level.operand first left)
      (steps : Derives (.steps level left) rest tree) : Derives (.level level) (first ++ rest) tree
  | last (level : Level) (left : Tree) : Derives (.steps level left) [] left
  | step {level : Level} {left right tree : Tree} {operator : Operator}
      {space text rest : List Char} (belongs : operator ∈ level.operators)
      (isSpace : IsSpace space) (operand : Derives level.operand text right)
      (steps : Derives (.steps level (.operation operator left right)) rest tree) :
      Derives (.steps level left) (operator.symbol.toList ++ space ++ text ++ rest) tree

/-- Further expressions, each behind a semicolon. -/
inductive Following : List Char → List Tree → Prop
  | none : Following [] []
  | next {space text rest : List Char} {tree : Tree} {trees : List Tree} (isSpace : IsSpace space)
      (expression : Derives (.level .sum) text tree) (following : Following rest trees) :
      Following (';' :: space ++ text ++ rest) (tree :: trees)

/-- A program has no expression at all or one expression and further ones. -/
inductive IsProgram : List Char → List Tree → Prop
  | empty {space : List Char} (isSpace : IsSpace space) : IsProgram space []
  | expressions {space text rest : List Char} {tree : Tree} {trees : List Tree}
      (isSpace : IsSpace space) (expression : Derives (.level .sum) text tree)
      (following : Following rest trees) : IsProgram (space ++ text ++ rest) (tree :: trees)

end ParserCombinators.Calculator
