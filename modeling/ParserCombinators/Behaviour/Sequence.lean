/-
This file runs parsers one after another and tries parsers one instead of another.
-/

import ParserCombinators.Behaviour.Basic

namespace ParserCombinators

/-- A tuple holds one value of each type. -/
@[reducible] def Tuple : List Type → Type
  | [] => Unit
  | A :: rest => A × Tuple rest

namespace Behaviour

variable {medium : Medium} {Memory A : Type}

/-- The parts run from left to right, and the first failure ends the row. -/
def tuple : {types : List Type} →
    ((part : Fin types.length) → Behaviour medium Memory (types.get part)) →
    Behaviour medium Memory (Tuple types)
  | [], _ => succeed ()
  | _ :: _, parts =>
      chain (parts ⟨0, Nat.succ_pos _⟩) fun first =>
        map (fun others => (first, others)) (tuple fun part => parts part.succ)

/-- Each parser of the row goes on where the one before it has succeeded. The values so far are kept
with the latest one first. -/
def rowFrom : List (Behaviour medium Memory A) → List A → Behaviour medium Memory (List A)
  | [], values => succeed values.reverse
  | parser :: parsers, values => chain parser fun value => rowFrom parsers (value :: values)

/-- A row of parsers of one type gives the list of their values. -/
def row (parsers : List (Behaviour medium Memory A)) : Behaviour medium Memory (List A) :=
  rowFrom parsers []

/-- The values so far stand in front of those of the row. -/
theorem rowFrom_eq_map_row (parsers : List (Behaviour medium Memory A)) (values : List A) :
    rowFrom parsers values = map (values.reverse ++ ·) (row parsers) := by
  induction parsers generalizing values with
  | nil =>
      funext cursor session
      exact congrArg (Outcome.success cursor · session) (List.append_nil values.reverse).symm
  | cons parser parsers inductionHypothesis =>
      rw [row, rowFrom, rowFrom, map_chain]
      congr 1
      funext value
      rw [inductionHypothesis (value :: values), inductionHypothesis [value], map_map]
      congr 1
      funext others
      simp

/-- The first value stands in front of those of the other parsers. -/
theorem row_cons (parser : Behaviour medium Memory A) (parsers : List (Behaviour medium Memory A)) :
    row (parser :: parsers) = chain parser fun first => map (first :: ·) (row parsers) := by
  rw [row, rowFrom]
  congr 1
  funext first
  exact rowFrom_eq_map_row parsers [first]

def sequence {types : List Type}
    (parts : (part : Fin types.length) → Behaviour medium Memory (types.get part)) :
    Behaviour medium Memory (Tuple types) :=
  announce (.sequence types.length) (tuple parts)

def sequenceList (parsers : List (Behaviour medium Memory A)) : Behaviour medium Memory (List A) :=
  announce (.sequence parsers.length) (row parsers)

/-- All alternatives have failed, and their failures are the causes. -/
def choiceFailure (index : Nat) (failures : List Failure) : Failure :=
  (Failure.newAt .choice ("no alternative matched at index " ++ toString index) index).causedByAll
    failures

/-- Every alternative begins at the same cursor. The failures so far are kept in order. -/
def attempt (failures : List Failure) :
    List (Behaviour medium Memory A) → Behaviour medium Memory A
  | [] => fun cursor =>
      failRecorded .choiceFailed (choiceFailure cursor.index failures) cursor
  | parser :: parsers => fun cursor session =>
      (parser cursor session).orElse fun failure session =>
        attempt (failures ++ [failure]) parsers cursor session

/-- The first success wins. -/
def choice (parsers : List (Behaviour medium Memory A)) : Behaviour medium Memory A :=
  announce (.choice parsers.length) (attempt [] parsers)

/-- A parser that fails is absent, and then nothing is consumed. -/
def optional (parser : Behaviour medium Memory A) : Behaviour medium Memory (Option A) :=
  fun cursor session =>
    (map some parser cursor session).orElse fun _ session =>
      succeedRecorded .optional none cursor session

end Behaviour

end ParserCombinators
