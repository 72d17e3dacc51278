/-
This file defines positions in an input. A position never changes. Moving gives a new one.
-/

import ParserCombinators.Medium
import ParserCombinators.Text.Column

namespace ParserCombinators

open Text

/-- These are the ways in which a move or a cut can be impossible. -/
inductive Fault
  | overflow
  | pastEnd
  | outOfRange
  deriving DecidableEq, Repr

def Fault.message : Fault → String
  | .overflow => "attempt to add with overflow"
  | .pastEnd => "cursor advanced past end of input"
  | .outOfRange => "range end index out of range"

/-- A cursor is the whole input with a position in it. -/
structure Cursor (medium : Medium) where
  input : List medium.Element
  index : Nat

namespace Cursor

/-- Positions are machine words below this bound. -/
def indexBound : Nat := Nat.pow 2 64

variable {medium : Medium}

def start (input : List medium.Element) : Cursor medium := ⟨input, 0⟩

def ofText (text : String) : Cursor .text := start text.toList

/-- The whole input has this length. -/
def length (cursor : Cursor medium) : Nat := medium.measure cursor.input

def isEnd (cursor : Cursor medium) : Bool := decide (cursor.length ≤ cursor.index)

/-- The unread elements. There are none when the index lies inside an element. -/
def rest (cursor : Cursor medium) : List medium.Element :=
  (medium.after cursor.input cursor.index).getD []

def peek (cursor : Cursor medium) : Option medium.Element := cursor.rest.head?

/-- Moving is a fault when the new position is no machine word or lies past the end. -/
def advance (cursor : Cursor medium) (distance : Nat) : Except Fault (Cursor medium) :=
  if indexBound ≤ cursor.index + distance then .error .overflow
  else if cursor.length < cursor.index + distance then .error .pastEnd
  else .ok { cursor with index := cursor.index + distance }

/-- The next elements that together measure `length` units. -/
def cut (cursor : Cursor medium) (length : Nat) : Except Fault (List medium.Element) :=
  match medium.upTo cursor.rest length with
  | some elements => .ok elements
  | none => .error .outOfRange

/-- At most `limit` unread elements, as messages show them. -/
def preview (cursor : Cursor medium) (limit : Nat) : String :=
  medium.preview (cursor.rest.take limit)

/-- Messages about failures show this many elements. -/
def foundWidth : Nat := 10

def found (cursor : Cursor medium) : String := cursor.preview foundWidth

instance [BEq medium.Element] : BEq (Cursor medium) where
  beq first second := first.index == second.index && first.input == second.input

/-- The structure of a cursor with the beginning of its rest. -/
def describe (cursor : Cursor medium) : String :=
  "Cursor \x7b index: " ++ toString cursor.index ++ ", rest: " ++
    quoteText (cursor.preview 20) ++ " \x7d"

/-- The index and the beginning of the rest between bars. -/
def summary (cursor : Cursor medium) : String :=
  toString cursor.index ++ ":" ++ columnTrimmed (cursor.preview columnCapacity)

end Cursor

end ParserCombinators
