/-
This file proves equations between behaviours: how one way of going on is regrouped with another.
-/

import ParserCombinators.Behaviour.Repetition

namespace ParserCombinators

variable {medium : Medium} {Memory A B C : Type}

/-- What comes after both ways on comes after each of them. -/
theorem Outcome.resolve_andThen (outcome : Outcome medium Memory A)
    (succeeded : Cursor medium → A → Session Memory → Outcome medium Memory B)
    (failed : Failure → Session Memory → Outcome medium Memory B)
    (after : Cursor medium → B → Session Memory → Outcome medium Memory C) :
    (outcome.resolve succeeded failed).andThen after =
      outcome.resolve (fun next value later => (succeeded next value later).andThen after)
        fun reason later => (failed reason later).andThen after := by
  cases outcome <;> rfl

namespace Behaviour

theorem chain_succeed (parser : Behaviour medium Memory A) : chain parser succeed = parser := by
  funext cursor session
  show (parser cursor session).andThen _ = _
  cases parser cursor session <;> rfl

/-- The function is parsed first, then its argument, and then whatever their value chooses. -/
theorem chain_ap (function : Behaviour medium Memory (A → B)) (argument : Behaviour medium Memory A)
    (next : B → Behaviour medium Memory C) :
    chain (ap function argument) next =
      chain function fun convert => chain argument fun value => next (convert value) := by
  funext cursor session
  show ((function cursor session).andThen _).andThen _ = (function cursor session).andThen _
  cases function cursor session with
  | unfinished => rfl
  | fault problem => rfl
  | failure reason later => rfl
  | success middle convert later =>
      show ((argument middle later).andThen _).andThen _ = (argument middle later).andThen _
      cases argument middle later <;> rfl

/-- A choice that may always succeed with a value of its own handles every failure. -/
theorem choice_succeed (parser : Behaviour medium Memory A) (value : A) (cursor : Cursor medium)
    (session : Session Memory) :
    choice [parser, succeed value] cursor session =
      (parser cursor (session.record cursor.index (.choice 2) .began)).orElse fun _ later =>
        .success cursor value later := by
  show (parser cursor (session.record cursor.index (.choice 2) .began)).orElse _ = _
  cases parser cursor (session.record cursor.index (.choice 2) .began) <;> rfl

end Behaviour

end ParserCombinators
