/-
This file defines the leaf parsers, which alone look at the input.
-/

import ParserCombinators.Pattern.Basic
import ParserCombinators.Trace

namespace ParserCombinators

open Text

/-- A reading either moves the cursor and gives a value, or fails, or is a fault. -/
inductive Reading (medium : Medium) (A : Type)
  | success (cursor : Cursor medium) (value : A)
  | failure (reason : Failure)
  | fault (problem : Fault)

/-- The next elements become the value, and the cursor moves behind them. -/
def Reading.consume {medium : Medium} {A : Type} (cursor : Cursor medium) (length : Nat)
    (value : List medium.Element → A) : Reading medium A :=
  match cursor.advance length with
  | .error problem => .fault problem
  | .ok next =>
      match cursor.cut length with
      | .error problem => .fault problem
      | .ok elements => .success next (value elements)

/-- A failure without a cause at the position of the cursor. -/
def Reading.failAt {medium : Medium} {A : Type} (cursor : Cursor medium) (kind : FailureKind)
    (message : String) : Reading medium A :=
  .failure (.newAt kind message cursor.index)

/-- Literals and patterns read texts. The other leaves read slices. -/
inductive Leaf : Medium → Type → Type 1
  | literal (expected : String) : Leaf .text String
  | pattern (pattern : Pattern) : Leaf .text String
  | satisfy {Element : Type} {render : Element → String} (description : String)
      (accepts : Element → Bool) : Leaf (.slice Element render) Element
  | take {Element : Type} {render : Element → String} (count : Nat) :
      Leaf (.slice Element render) (List Element)

namespace Leaf

def readLiteral (expected : String) (cursor : Cursor .text) : Reading .text String :=
  if expected.toList.isPrefixOf cursor.rest then
    .consume cursor (Medium.measure .text expected.toList) String.ofList
  else
    .failAt cursor .literal
      ("expected " ++ quoteText expected ++ " but found " ++ quoteText cursor.found)

/-- The whole input is searched from the cursor on, but only a match just at the cursor counts. -/
def readPattern (pattern : Pattern) (cursor : Cursor .text) : Reading .text String :=
  match pattern.matchFrom cursor.input cursor.index with
  | some span => .consume cursor (span.stop - cursor.index) String.ofList
  | none =>
      .failAt cursor .pattern
        (quoteText cursor.found ++ " does not match /" ++ pattern.source ++ "/")

def readSatisfy {Element : Type} {render : Element → String} (description : String)
    (accepts : Element → Bool) (cursor : Cursor (.slice Element render)) :
    Reading (.slice Element render) Element :=
  match cursor.peek.filter accepts with
  | some element => .consume cursor 1 fun _ => element
  | none =>
      .failAt cursor (.custom description)
        ("expected " ++ description ++ " but found " ++ showOptional (cursor.peek.map render))

def readTake {Element : Type} {render : Element → String} (count : Nat)
    (cursor : Cursor (.slice Element render)) :
    Reading (.slice Element render) (List Element) :=
  if cursor.rest.length < count then
    .failAt cursor (.custom "take")
      ("wanted " ++ toString count ++ " elements but only " ++ toString cursor.rest.length ++
        " remain")
  else .consume cursor count id

def read {medium : Medium} {A : Type} : Leaf medium A → Cursor medium → Reading medium A
  | .literal expected => readLiteral expected
  | .pattern wanted => readPattern wanted
  | .satisfy description accepts => readSatisfy description accepts
  | .take count => readTake count

/-- Events name a leaf by this operation. Taking elements leaves no event. -/
def operation {medium : Medium} {A : Type} : Leaf medium A → Option Operation
  | .literal expected => some (.literal expected)
  | .pattern wanted => some (.pattern wanted.source)
  | .satisfy description _ => some (.satisfy description)
  | .take _ => none

end Leaf

end ParserCombinators
