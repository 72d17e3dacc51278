/-
This file compares failures at two places of an input. Apart from the places they say the same.
-/

import Mathlib.Data.List.Forall2
import ParserCombinators.Behaviour.Repetition

namespace ParserCombinators

open Behaviour

/-- The second report says the same at a place that lies further on. Only a choice names its place
in the message. -/
structure Report.Shifted (distance : Nat) (report report' : Report) : Prop where
  kind : report'.kind = report.kind
  position : report'.position = report.position.map (distance + ·)
  message : if report.kind = .choice then
      ∃ index, report.message = "no alternative matched at index " ++ toString index ∧
        report'.message = "no alternative matched at index " ++ toString (distance + index)
    else report'.message = report.message

/-- All reports in the second tree say the same at places that lie further on, and the trees have
the same shape. -/
inductive Failure.Shifted (distance : Nat) : Failure → Failure → Prop
  | leaf {report report' : Report} (reports : report.Shifted distance report') :
      Shifted distance (.leaf report) (.leaf report')
  | single {report report' : Report} {cause cause' : Failure}
      (reports : report.Shifted distance report') (causes : Shifted distance cause cause') :
      Shifted distance (.single report cause) (.single report' cause')
  | many {report report' : Report} {causes causes' : List Failure}
      (reports : report.Shifted distance report')
      (all : List.Forall₂ (Shifted distance) causes causes') :
      Shifted distance (.many report causes) (.many report' causes')

namespace Failure.Shifted

variable {distance index : Nat} {reason reason' cause cause' : Failure}

theorem report (shifted : reason.Shifted distance reason') :
    reason.report.Shifted distance reason'.report := by
  cases shifted with
  | leaf reports => exact reports
  | single reports causes => exact reports
  | many reports all => exact reports

/-- A failure of any other kind than a choice has the same message at both places. -/
theorem newAt (kind : FailureKind) (noChoice : kind ≠ .choice) (message : String) :
    (Failure.newAt kind message index).Shifted distance
      (.newAt kind message (distance + index)) := by
  refine .leaf ⟨rfl, rfl, ?_⟩
  rw [if_neg noChoice]

theorem causedBy (shifted : reason.Shifted distance reason')
    (causes : cause.Shifted distance cause') :
    (reason.causedBy cause).Shifted distance (reason'.causedBy cause') :=
  .single shifted.report causes

theorem causedByAll (shifted : reason.Shifted distance reason') {causes causes' : List Failure}
    (all : List.Forall₂ (Shifted distance) causes causes') :
    (reason.causedByAll causes).Shifted distance (reason'.causedByAll causes') := by
  cases all with
  | nil => exact shifted
  | cons first others =>
      cases others with
      | nil => exact .single shifted.report first
      | cons second others => exact .many shifted.report (.cons first (.cons second others))

theorem rule (name : String) (causes : cause.Shifted distance cause') :
    (ruleFailure name index cause).Shifted distance (ruleFailure name (distance + index) cause') :=
  (newAt (.rule name) nofun _).causedBy causes

theorem reader (target text : String) :
    (readerFailure target text index).Shifted distance
      (readerFailure target text (distance + index)) :=
  newAt (.custom "FromStr") nofun _

theorem manyOne (causes : cause.Shifted distance cause') :
    (manyOneFailure index cause).Shifted distance (manyOneFailure (distance + index) cause') :=
  (newAt .manyOne nofun _).causedBy causes

theorem choice {causes causes' : List Failure}
    (all : List.Forall₂ (Shifted distance) causes causes') :
    (choiceFailure index causes).Shifted distance (choiceFailure (distance + index) causes') := by
  apply causedByAll _ all
  refine .leaf ⟨rfl, rfl, ?_⟩
  rw [if_pos rfl]
  exact ⟨index, rfl, rfl⟩

end Failure.Shifted

end ParserCombinators
