/-
This file states what an outcome ensures, how outcomes that go on ensure it, and where successes and
failures come from.
-/

import ParserCombinators.Behaviour.Repetition

namespace ParserCombinators.Outcome

variable {medium : Medium} {Memory A B : Type}

/-- One condition holds of a success and another one of a failure. A fault ensures nothing, and an
unfinished outcome ensures everything. -/
def Ensures (succeeded : Cursor medium → A → Session Memory → Prop)
    (failed : Failure → Session Memory → Prop) : Outcome medium Memory A → Prop
  | .unfinished => True
  | .fault _ => False
  | .failure reason session => failed reason session
  | .success cursor value session => succeeded cursor value session

section

variable {outcome : Outcome medium Memory A}
  {succeeded succeeded' : Cursor medium → A → Session Memory → Prop}
  {failed failed' : Failure → Session Memory → Prop}

theorem Ensures.imp (ensures : outcome.Ensures succeeded failed)
    (weaker : ∀ cursor value session, succeeded cursor value session →
      succeeded' cursor value session)
    (weakerFailed : ∀ reason session, failed reason session → failed' reason session) :
    outcome.Ensures succeeded' failed' := by
  cases outcome with
  | unfinished => trivial
  | fault problem => exact ensures
  | failure reason session => exact weakerFailed reason session ensures
  | success cursor value session => exact weaker cursor value session ensures

/-- Each way on has only to deal with what is ensured so far. -/
theorem Ensures.resolve (ensures : outcome.Ensures succeeded failed)
    {whenSucceeded : Cursor medium → A → Session Memory → Outcome medium Memory B}
    {whenFailed : Failure → Session Memory → Outcome medium Memory B}
    {after : Cursor medium → B → Session Memory → Prop}
    {afterFailed : Failure → Session Memory → Prop}
    (onSuccess : ∀ cursor value session, succeeded cursor value session →
      (whenSucceeded cursor value session).Ensures after afterFailed)
    (onFailure : ∀ reason session, failed reason session →
      (whenFailed reason session).Ensures after afterFailed) :
    (outcome.resolve whenSucceeded whenFailed).Ensures after afterFailed := by
  cases outcome with
  | unfinished => trivial
  | fault problem => exact ensures
  | failure reason session => exact onFailure reason session ensures
  | success cursor value session => exact onSuccess cursor value session ensures

/-- A failure passes through unchanged. -/
theorem Ensures.andThen (ensures : outcome.Ensures succeeded failed)
    {next : Cursor medium → A → Session Memory → Outcome medium Memory B}
    {after : Cursor medium → B → Session Memory → Prop}
    (onSuccess : ∀ cursor value session, succeeded cursor value session →
      (next cursor value session).Ensures after failed) :
    (outcome.andThen next).Ensures after failed :=
  ensures.resolve onSuccess fun _ _ holds => holds

/-- A success passes through unchanged. -/
theorem Ensures.orElse (ensures : outcome.Ensures succeeded failed)
    {handle : Failure → Session Memory → Outcome medium Memory A}
    {afterFailed : Failure → Session Memory → Prop}
    (onFailure : ∀ reason session, failed reason session →
      (handle reason session).Ensures succeeded afterFailed) :
    (outcome.orElse handle).Ensures succeeded afterFailed :=
  ensures.resolve (fun _ _ _ holds => holds) onFailure

theorem Ensures.mapSession
    {change : Session Memory → Session Memory}
    (ensures : outcome.Ensures (fun cursor value session => succeeded cursor value (change session))
      fun reason session => failed reason (change session)) :
    (outcome.mapSession change).Ensures succeeded failed :=
  ensures.resolve (fun _ _ _ holds => holds) fun _ _ holds => holds

/-- Besides what is ensured, it is known which outcome there was. -/
theorem Ensures.remember (ensures : outcome.Ensures succeeded failed) :
    outcome.Ensures
      (fun cursor value session =>
        succeeded cursor value session ∧ outcome = .success cursor value session)
      fun reason session => failed reason session ∧ outcome = .failure reason session := by
  cases outcome with
  | unfinished => trivial
  | fault problem => exact ensures
  | failure reason session => exact ⟨ensures, rfl⟩
  | success cursor value session => exact ⟨ensures, rfl⟩

/-- What is ensured can be read off a success. -/
theorem Ensures.of_success (ensures : outcome.Ensures succeeded failed)
    {cursor : Cursor medium} {value : A} {session : Session Memory}
    (same : outcome = .success cursor value session) : succeeded cursor value session := by
  rw [same] at ensures
  exact ensures

/-- What is ensured can be read off a failure. -/
theorem Ensures.of_failure (ensures : outcome.Ensures succeeded failed)
    {reason : Failure} {session : Session Memory}
    (same : outcome = .failure reason session) : failed reason session := by
  rw [same] at ensures
  exact ensures

theorem Ensures.ne_fault (ensures : outcome.Ensures succeeded failed) (problem : Fault) :
    outcome ≠ .fault problem := by
  intro same
  rw [same] at ensures
  exact ensures

end

section

variable {outcome : Outcome medium Memory A} {next : Cursor medium} {final : Session Memory}

/-- A success comes from a success that went on or from a failure that was handled. -/
theorem resolve_eq_success
    {succeeded : Cursor medium → A → Session Memory → Outcome medium Memory B}
    {failed : Failure → Session Memory → Outcome medium Memory B} {value : B}
    (success : outcome.resolve succeeded failed = .success next value final) :
    (∃ middle first session, outcome = .success middle first session ∧
        succeeded middle first session = .success next value final) ∨
      ∃ reason session, outcome = .failure reason session ∧
        failed reason session = .success next value final := by
  cases outcome with
  | unfinished => cases success
  | fault problem => cases success
  | failure reason session => exact .inr ⟨reason, session, rfl, success⟩
  | success middle first session => exact .inl ⟨middle, first, session, rfl, success⟩

theorem andThen_eq_success {after : Cursor medium → A → Session Memory → Outcome medium Memory B}
    {value : B} (success : outcome.andThen after = .success next value final) :
    ∃ middle first session, outcome = .success middle first session ∧
      after middle first session = .success next value final := by
  rcases resolve_eq_success success with went | ⟨reason, session, _, impossible⟩
  · exact went
  · cases impossible

theorem orElse_eq_success {handle : Failure → Session Memory → Outcome medium Memory A} {value : A}
    (success : outcome.orElse handle = .success next value final) :
    outcome = .success next value final ∨
      ∃ reason session, outcome = .failure reason session ∧
        handle reason session = .success next value final := by
  rcases resolve_eq_success success with ⟨middle, value, session, same, passed⟩ | handled
  · exact .inl (same.trans passed)
  · exact .inr handled

theorem mapSession_eq_success {change : Session Memory → Session Memory} {value : A}
    (success : outcome.mapSession change = .success next value final) :
    ∃ session, outcome = .success next value session := by
  rcases resolve_eq_success success with ⟨_, _, session, same, changed⟩ | ⟨_, _, _, impossible⟩
  · cases changed
    exact ⟨session, same⟩
  · cases impossible

end

section

variable {outcome : Outcome medium Memory A} {reason : Failure} {final : Session Memory}

/-- A failure comes from a success that went on or from a failure that was handled. -/
theorem resolve_eq_failure
    {succeeded : Cursor medium → A → Session Memory → Outcome medium Memory B}
    {failed : Failure → Session Memory → Outcome medium Memory B}
    (failure : outcome.resolve succeeded failed = .failure reason final) :
    (∃ middle first session, outcome = .success middle first session ∧
        succeeded middle first session = .failure reason final) ∨
      ∃ cause session, outcome = .failure cause session ∧
        failed cause session = .failure reason final := by
  cases outcome with
  | unfinished => cases failure
  | fault problem => cases failure
  | failure cause session => exact .inr ⟨cause, session, rfl, failure⟩
  | success middle first session => exact .inl ⟨middle, first, session, rfl, failure⟩

theorem andThen_eq_failure {after : Cursor medium → A → Session Memory → Outcome medium Memory B}
    (failure : outcome.andThen after = .failure reason final) :
    (∃ middle first session, outcome = .success middle first session ∧
        after middle first session = .failure reason final) ∨
      outcome = .failure reason final := by
  rcases resolve_eq_failure failure with went | ⟨cause, session, same, passed⟩
  · exact .inl went
  · exact .inr (same.trans (by cases passed; rfl))

theorem orElse_eq_failure {handle : Failure → Session Memory → Outcome medium Memory A}
    (failure : outcome.orElse handle = .failure reason final) :
    ∃ cause session, outcome = .failure cause session ∧
      handle cause session = .failure reason final := by
  rcases resolve_eq_failure failure with ⟨_, _, _, _, impossible⟩ | handled
  · cases impossible
  · exact handled

theorem mapSession_eq_failure {change : Session Memory → Session Memory}
    (failure : outcome.mapSession change = .failure reason final) :
    ∃ session, outcome = .failure reason session := by
  rcases resolve_eq_failure failure with ⟨_, _, _, _, impossible⟩ | ⟨cause, session, same, changed⟩
  · cases impossible
  · cases changed
    exact ⟨session, same⟩

end

/-- The parser has returned. -/
def Returned : Outcome medium Memory A → Prop
  | .unfinished => False
  | .fault _ => False
  | .failure _ _ => True
  | .success _ _ _ => True

/-- A parser that has returned has succeeded or failed. -/
theorem Returned.success_or_failure {outcome : Outcome medium Memory A}
    (returned : outcome.Returned) :
    (∃ cursor value session, outcome = .success cursor value session) ∨
      ∃ reason session, outcome = .failure reason session := by
  cases outcome with
  | unfinished => exact returned.elim
  | fault problem => exact returned.elim
  | failure reason session => exact .inr ⟨reason, session, rfl⟩
  | success cursor value session => exact .inl ⟨cursor, value, session, rfl⟩

/-- An outcome that ensures anything has returned as soon as it is finished. -/
theorem Ensures.returned {outcome : Outcome medium Memory A}
    {succeeded : Cursor medium → A → Session Memory → Prop}
    {failed : Failure → Session Memory → Prop} (ensures : outcome.Ensures succeeded failed)
    (finished : outcome ≠ .unfinished) : outcome.Returned := by
  cases outcome with
  | unfinished => exact finished rfl
  | fault problem => exact ensures
  | failure reason session => trivial
  | success cursor value session => trivial

end ParserCombinators.Outcome
