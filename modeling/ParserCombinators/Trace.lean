/-
This file defines the events that a parse records and the lines that show them.
-/

import ParserCombinators.Cursor
import ParserCombinators.Failure.Basic

namespace ParserCombinators

open Text

/-- The argument of an operation is a text or a count. -/
inductive Argument
  | text (content : String)
  | count (number : Nat)
  deriving DecidableEq, Repr

/-- Texts are shown in quotes. -/
def Argument.render : Argument → String
  | .text content => quoteText content
  | .count number => toString number

structure Operation where
  name : String
  argument : Argument
  deriving DecidableEq, Repr

namespace Operation

def render (operation : Operation) : String :=
  operation.name ++ "(" ++ operation.argument.render ++ ")"

def literal (expected : String) : Operation := ⟨"literal", .text expected⟩

def pattern (source : String) : Operation := ⟨"pattern", .text source⟩

def satisfy (description : String) : Operation := ⟨"satisfy", .text description⟩

def parseAs (target : String) : Operation := ⟨"parse_as", .text target⟩

def label (name : String) : Operation := ⟨"label", .text name⟩

def lazy : Operation := ⟨"lazy", .text ""⟩

def optional : Operation := ⟨"optional", .text "absent"⟩

/-- A sequence names the number of its parts. -/
def sequence (count : Nat) : Operation := ⟨"sequence_of", .count count⟩

/-- A choice names the number of its alternatives when it begins. -/
def choice (count : Nat) : Operation := ⟨"choice", .count count⟩

def choiceFailed : Operation := ⟨"choice", .text ""⟩

/-- Repetitions name the number of values only when they end. -/
def many : Operation := ⟨"many", .text ""⟩

def manyEnd (count : Nat) : Operation := ⟨"many", .count count⟩

def manyOne : Operation := ⟨"many_one", .text ""⟩

def manyOneEnd (count : Nat) : Operation := ⟨"many_one", .count count⟩

def sepBy : Operation := ⟨"sep_by", .text ""⟩

def sepByEnd (count : Nat) : Operation := ⟨"sep_by", .count count⟩

end Operation

/-- An event tells that an operation began, succeeded or failed. -/
inductive Progress
  | began
  | succeeded
  | failed (failure : Failure)

/-- An event happens at an index while a label is in force. -/
structure Event where
  index : Nat
  label : String
  operation : Operation
  progress : Progress

/-- Labels and operations are filled up to this width. -/
def labelWidth : Nat := 15

/-- A line looks this far ahead, although its column may show less. -/
def lookahead : Nat := 35

/-- A line shows the rest of the input, the label, the operation and its outcome. -/
def Event.line {medium : Medium} (input : List medium.Element) (event : Event) : String :=
  let cursor : Cursor medium := ⟨input, event.index⟩
  let line := column (cursor.preview lookahead) ++ " " ++ padRight labelWidth event.label ++
    " : " ++ padRight labelWidth event.operation.render
  match event.progress with
  | .began => line
  | .succeeded => line ++ " -> ok @" ++ toString event.index
  | .failed failure => line ++ " -> " ++ failure.headline

/-- A line ends with the operation, which blanks fill up, and with the outcome if there is one. -/
def Event.ending (event : Event) : String :=
  padRight labelWidth event.operation.render ++
    match event.progress with
    | .began => ""
    | .succeeded => " -> ok @" ++ toString event.index
    | .failed failure => " -> " ++ failure.headline

/-- The label stands behind the column of the input and in front of the operation. -/
theorem Event.line_eq_parts {medium : Medium} (input : List medium.Element) (event : Event) :
    event.line input = column (Cursor.preview ⟨input, event.index⟩ lookahead) ++ " " ++
      padRight labelWidth event.label ++ " : " ++ event.ending := by
  rw [line, ending]
  cases event.progress with
  | began => simp only [String.append_empty]
  | succeeded => simp only [String.append_assoc]
  | failed failure => simp only [String.append_assoc]

end ParserCombinators
