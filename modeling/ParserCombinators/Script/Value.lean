/-
This file defines the values of scripts, whose parsers are put together while a program runs.
-/

import ParserCombinators.Failure.Tree

namespace ParserCombinators.Script

/-- All parsers of a script yield values of this one type. -/
inductive Value
  | unit
  | boolean (value : Bool)
  | text (value : String)
  | character (value : Char)
  | integer (value : Int)
  | float (value : Float)
  | list (parts : List Value)
  | tuple (parts : List Value)
  | absent
  | present (content : Value)

namespace Value

mutual

/-- The text of a value joins the texts of its parts. -/
def flat : Value → String
  | .unit => ""
  | .boolean true => "true"
  | .boolean false => "false"
  | .text value => value
  | .character value => String.singleton value
  | .integer value => toString value
  | .float _ => ""
  | .list parts => flatAll parts
  | .tuple parts => flatAll parts
  | .absent => ""
  | .present content => flat content

def flatAll : List Value → String
  | [] => ""
  | part :: parts => flat part ++ flatAll parts

end

mutual

/-- The sum of the integers in a value. -/
def sum : Value → Int
  | .unit => 0
  | .boolean _ => 0
  | .text _ => 0
  | .character _ => 0
  | .integer value => value
  | .float _ => 0
  | .list parts => sumAll parts
  | .tuple parts => sumAll parts
  | .absent => 0
  | .present content => sum content

def sumAll : List Value → Int
  | [] => 0
  | part :: parts => sum part + sumAll parts

end

/-- The direct parts of a list or a tuple. -/
def parts? : Value → Option (List Value)
  | .list parts => some parts
  | .tuple parts => some parts
  | _ => none

/-- The number of direct parts. An absent value counts as none and any other value as one. -/
def count : Value → Nat
  | .list parts => parts.length
  | .tuple parts => parts.length
  | .absent => 0
  | _ => 1

/-- A list or a tuple is reversed. Any other value stays as it is. -/
def reversed : Value → Value
  | .list parts => .list parts.reverse
  | .tuple parts => .tuple parts.reverse
  | value => value

/-- One part of a list or a tuple, if it is there. -/
def nth (value : Value) (index : Nat) : Value :=
  ((value.parts?.getD [])[index]?).getD .unit

/-- The text of a value with its letters of ASCII in upper case. -/
def upper (value : Value) : String := value.flat.map Char.toUpper

/-- The width of the text of a value in UTF-8. -/
def textWidth (value : Value) : Nat := value.flat.utf8ByteSize

/-- The number of characters in the text of a value. -/
def textLength (value : Value) : Nat := value.flat.length

/-- Repetitions by value make at most this many rounds. -/
def roundLimit : Nat := 1000

/-- An integer within the limit gives the number of rounds itself. Any other value gives its
count. -/
def rounds : Value → Nat
  | .integer value => min value.toNat roundLimit
  | value => value.count

/-- Elements of an input are integers, characters or texts, and are compared as such. -/
def equalElement : Value → Value → Bool
  | .integer first, .integer second => first == second
  | .character first, .character second => first == second
  | .text first, .text second => first == second
  | _, _ => false

/-- Integers are compared by size, characters by code point and texts by their characters. -/
def atMostElement : Value → Value → Bool
  | .integer first, .integer second => decide (first ≤ second)
  | .character first, .character second => decide (first ≤ second)
  | .text first, .text second => !decide (second < first)
  | _, _ => false

end Value

/-- A test says which elements of an input are accepted. -/
inductive ElementTest
  | any
  | equal (element : Value)
  | among (elements : List Value)
  | range (low high : Value)
  | negated (test : ElementTest)

def ElementTest.accepts : ElementTest → Value → Bool
  | .any, _ => true
  | .equal wanted, element => element.equalElement wanted
  | .among elements, element => elements.any element.equalElement
  | .range low high, element => low.atMostElement element && element.atMostElement high
  | .negated test, element => !test.accepts element

/-- A conversion of values. -/
inductive Transform
  | identity
  | text
  | upper
  | textWidth
  | textLength
  | count
  | sum
  | nest
  | reversed
  | nth (index : Nat)
  | constant (value : Value)

def Transform.apply : Transform → Value → Value
  | .identity, value => value
  | .text, value => .text value.flat
  | .upper, value => .text value.upper
  | .textWidth, value => .integer value.textWidth
  | .textLength, value => .integer value.textLength
  | .count, value => .integer value.count
  | .sum, value => .integer value.sum
  | .nest, value => .integer (value.sum + 1)
  | .reversed, value => value.reversed
  | .nth index, value => value.nth index
  | .constant value, _ => value

/-- A conversion of failures. -/
inductive ErrorTransform
  | identity
  | furthest
  | moved (position : Nat)
  | renamed (kind : FailureKind)
  | wrapped (outer : Failure)
  | replaced (other : Failure)
  | both (outer : Failure)

/-- A renamed failure keeps only its message. A failure that is given both causes is blamed on the
earlier failure and on the furthest leaf of it. -/
def ErrorTransform.apply : ErrorTransform → Failure → Failure
  | .identity, failure => failure
  | .furthest, failure => failure.furthest
  | .moved position, failure => failure.movedTo position
  | .renamed kind, failure => .new kind failure.message
  | .wrapped outer, failure => outer.causedBy failure
  | .replaced other, _ => other
  | .both outer, failure => outer.causedByAll [failure, failure.furthest]

end ParserCombinators.Script
