/-
This file characterizes a choice. Its alternatives are tried in order at one cursor up to the first
one that succeeds, and when they have all failed their failures are the causes. The order of pure
alternatives does not matter if at most one of them succeeds.
-/

import Mathlib.Algebra.Group.End
import Mathlib.Data.List.OfFn
import ParserCombinators.Proofs.Failure.Shape
import ParserCombinators.Proofs.Sequencing

namespace ParserCombinators

theorem append_ofFn_succ {X : Type} {count : Nat} (front : List X) (values : Fin (count + 1) → X) :
    front ++ List.ofFn values =
      front ++ [values 0] ++ List.ofFn fun index : Fin count => values index.succ := by
  rw [List.ofFn_succ, List.append_assoc]
  rfl

namespace Behaviour

variable {medium : Medium} {Memory A : Type} {count : Nat}

/-- The alternatives before the winner fail one after another at this cursor, and the winner
succeeds there. -/
structure WinsAlong (alternatives : Fin count → Behaviour medium Memory A) (cursor : Cursor medium)
    (sessions : Nat → Session Memory) (winner : Fin count) (next : Cursor medium) (value : A)
    (final : Session Memory) : Prop where
  before : ∀ index < winner, ∃ reason, alternatives index cursor (sessions index) =
    .failure reason (sessions (index + 1))
  wins : alternatives winner cursor (sessions winner) = .success next value final

/-- All alternatives fail one after another at this cursor. -/
def ExhaustedAlong (alternatives : Fin count → Behaviour medium Memory A) (cursor : Cursor medium)
    (sessions : Nat → Session Memory) (reasons : Fin count → Failure) : Prop :=
  ∀ index : Fin count, alternatives index cursor (sessions index) =
    .failure (reasons index) (sessions (index + 1))

section

variable (alternatives : Fin count → Behaviour medium Memory A) (failures : List Failure)
  (cursor : Cursor medium) (session : Session Memory)

theorem attempt_eq_success_iff (next : Cursor medium) (value : A) (final : Session Memory) :
    attempt failures (List.ofFn alternatives) cursor session = .success next value final ↔
      ∃ sessions winner, sessions 0 = session ∧
        WinsAlong alternatives cursor sessions winner next value final := by
  induction count generalizing failures session with
  | zero =>
      rw [List.ofFn_zero]
      constructor
      · nofun
      · rintro ⟨_, winner, _⟩
        exact winner.elim0
  | succ count inductionHypothesis =>
      rw [List.ofFn_succ]
      constructor
      · intro success
        rcases Outcome.orElse_eq_success success with first | ⟨reason, later, first, others⟩
        · exact ⟨fun _ => session, 0, rfl, nofun, first⟩
        · obtain ⟨sessions, winner, rfl, before, wins⟩ := (inductionHypothesis _ _ _).mp others
          refine ⟨inFront session sessions, winner.succ, rfl, ?_, wins⟩
          intro index earlier
          cases index using Fin.cases with
          | zero => exact ⟨reason, first⟩
          | succ index => exact before index (Fin.succ_lt_succ_iff.mp earlier)
      · rintro ⟨sessions, winner, rfl, before, wins⟩
        show (alternatives 0 cursor (sessions 0)).orElse _ = _
        cases winner using Fin.cases with
        | zero =>
            rw [show alternatives 0 cursor (sessions 0) = _ from wins]
            rfl
        | succ winner =>
            obtain ⟨reason, first⟩ := before 0 winner.succ_pos
            rw [show alternatives 0 cursor (sessions 0) = _ from first]
            exact (inductionHypothesis (fun index => alternatives index.succ) _ _).mpr
              ⟨fun number => sessions (number + 1), winner, rfl,
                fun index earlier => before index.succ (Fin.succ_lt_succ_iff.mpr earlier), wins⟩

/-- The failures are reported behind those that came before. None is lost, and their order stays. -/
theorem attempt_eq_failure_iff (reason : Failure) (final : Session Memory) :
    attempt failures (List.ofFn alternatives) cursor session = .failure reason final ↔
      ∃ sessions reasons, sessions 0 = session ∧
        ExhaustedAlong alternatives cursor sessions reasons ∧
        reason = choiceFailure cursor.index (failures ++ List.ofFn reasons) ∧
        final = (sessions count).record cursor.index .choiceFailed (.failed reason) := by
  induction count generalizing failures session with
  | zero =>
      rw [List.ofFn_zero]
      constructor
      · intro failure
        cases failure
        refine ⟨fun _ => session, fun index => index.elim0, rfl, fun index => index.elim0, ?_, rfl⟩
        rw [List.ofFn_zero, List.append_nil]
      · rintro ⟨sessions, reasons, rfl, _, rfl, rfl⟩
        rw [List.ofFn_zero, List.append_nil]
        rfl
  | succ count inductionHypothesis =>
      rw [List.ofFn_succ]
      constructor
      · intro failure
        obtain ⟨first, later, begun, others⟩ := Outcome.orElse_eq_failure failure
        obtain ⟨sessions, reasons, rfl, along, rfl, rfl⟩ := (inductionHypothesis _ _ _).mp others
        exact ⟨inFront session sessions, Fin.cons first reasons, rfl, Fin.cases begun along,
          congrArg (choiceFailure cursor.index)
            (append_ofFn_succ failures (Fin.cons first reasons)).symm, rfl⟩
      · rintro ⟨sessions, reasons, rfl, along, rfl, rfl⟩
        show (alternatives 0 cursor (sessions 0)).orElse _ = _
        rw [show alternatives 0 cursor (sessions 0) = _ from along 0]
        exact (inductionHypothesis (fun index => alternatives index.succ) _ _).mpr
          ⟨fun number => sessions (number + 1), fun index => reasons index.succ, rfl,
            fun index => along index.succ,
            congrArg (choiceFailure cursor.index) (append_ofFn_succ failures reasons), rfl⟩

variable {alternatives cursor}

/-- The calls are logged at one cursor. -/
theorem WinsAlong.logged {sessions : Nat → Session Memory} {winner : Fin count}
    {next : Cursor medium} {value : A} {final : Session Memory}
    (along : WinsAlong alternatives cursor sessions winner next value final)
    (calls : List (Nat × Cursor medium)) :
    WinsAlong (fun index => Behaviour.logged index (alternatives index)) cursor
      (fun number => (sessions number).logging (calls ++ callsAlong (fun _ => cursor) number))
      winner next value (final.logging (calls ++ callsAlong (fun _ => cursor) (winner + 1))) := by
  constructor
  case before =>
    intro index earlier
    obtain ⟨reason, failure⟩ := along.before index earlier
    exact ⟨reason, (logged_logging _ (fun _ => cursor) index _ calls).trans
      (congrArg (Outcome.logging _) failure)⟩
  case wins =>
    exact (logged_logging _ (fun _ => cursor) winner _ calls).trans
      (congrArg (Outcome.logging _) along.wins)

theorem ExhaustedAlong.logged {sessions : Nat → Session Memory} {reasons : Fin count → Failure}
    (along : ExhaustedAlong alternatives cursor sessions reasons)
    (calls : List (Nat × Cursor medium)) :
    ExhaustedAlong (fun index => Behaviour.logged index (alternatives index)) cursor
      (fun number => (sessions number).logging (calls ++ callsAlong (fun _ => cursor) number))
      reasons := by
  intro index
  exact (logged_logging _ (fun _ => cursor) index _ calls).trans
    (congrArg (Outcome.logging _) (along index))

variable (alternatives cursor)

/-- An outcome comes from trying the alternatives in order. It is the success of an alternative just
when those before it fail, and a failure just when all of them fail, with their failures in order. A
log of the calls has one call at this cursor for each alternative up to the first one that succeeds,
in order, and no other call. -/
structure TriesInOrder (outcome : Outcome medium Memory A)
    (logged : List (Nat × Cursor medium) → Outcome medium (CallLog medium Memory) A) : Prop where
  success_iff : ∀ next value final, outcome = .success next value final ↔
    ∃ sessions winner, sessions 0 = session ∧
      WinsAlong alternatives cursor sessions winner next value final
  failure_iff : ∀ reason final, outcome = .failure reason final ↔
    ∃ sessions reasons, sessions 0 = session ∧
      ExhaustedAlong alternatives cursor sessions reasons ∧
      reason = choiceFailure cursor.index (List.ofFn reasons) ∧
      final = (sessions count).record cursor.index .choiceFailed (.failed reason)
  calls_of_success : ∀ calls sessions winner next value final, sessions 0 = session →
    WinsAlong alternatives cursor sessions winner next value final →
      logged calls = .success next value
        (final.logging (calls ++ callsAlong (fun _ => cursor) (winner + 1)))
  calls_of_failure : ∀ calls sessions reasons, sessions 0 = session →
    ExhaustedAlong alternatives cursor sessions reasons →
      logged calls = .failure (choiceFailure cursor.index (List.ofFn reasons))
        (((sessions count).record cursor.index .choiceFailed
          (.failed (choiceFailure cursor.index (List.ofFn reasons)))).logging
            (calls ++ callsAlong (fun _ => cursor) count))

theorem choice_triesInOrder :
    TriesInOrder alternatives cursor (session.record cursor.index (.choice count) .began)
      (choice (List.ofFn alternatives) cursor session) fun calls =>
        choice (List.ofFn fun index : Fin count => logged index (alternatives index)) cursor
          (session.logging calls) := by
  simp only [choice, List.length_ofFn]
  constructor
  case success_iff => exact attempt_eq_success_iff alternatives [] cursor _
  case failure_iff => exact attempt_eq_failure_iff alternatives [] cursor _
  case calls_of_success =>
    intro calls sessions winner next value final begun along
    exact (attempt_eq_success_iff _ [] _ _ _ _ _).mpr ⟨_, winner,
      (congrArg (Session.logging _) (List.append_nil calls)).trans
        (congrArg (Session.logging · calls) begun), along.logged calls⟩
  case calls_of_failure =>
    intro calls sessions reasons begun along
    exact (attempt_eq_failure_iff _ [] _ _ _ _).mpr ⟨_, reasons,
      (congrArg (Session.logging _) (List.append_nil calls)).trans
        (congrArg (Session.logging · calls) begun), along.logged calls, rfl, rfl⟩

end

end Behaviour

namespace Grammar

variable {signature : Signature} {grammar : Grammar signature} {A : Type} {count : Nat}
  {alternatives : Fin count → Parser signature A} {cursor : Cursor signature.medium}
  {session : Session signature.Memory}

/-- More fuel keeps what the attempts have found. -/
theorem attempt_eq_of_le {fuel fuel' : Nat} (enough : fuel ≤ fuel')
    (alternatives : Fin count → Parser signature A) (failures : List Failure)
    (finished : Behaviour.attempt failures (List.ofFn fun index => grammar.outcome fuel
      (alternatives index)) cursor session ≠ .unfinished) :
    Behaviour.attempt failures (List.ofFn fun index => grammar.outcome fuel'
        (alternatives index)) cursor session =
      Behaviour.attempt failures (List.ofFn fun index => grammar.outcome fuel
        (alternatives index)) cursor session :=
  ((Behaviour.Refines.attempt (fun index => Parser.behaviour_refines
    (grammar.call_refines enough) enough (alternatives index)) failures cursor
      session).resolve_left finished).symm

/-- Behind a first alternative that fails, it ends as the other alternatives do. One amount of
fuel has to serve all of them. -/
theorem exists_attempt_eq_of_fails {alternatives : Fin (count + 1) → Parser signature A}
    {reason : Failure} (fails : grammar.FailsWith (alternatives 0) cursor session reason)
    (failures : List Failure) :
    ∃ later, ∀ fuel, Behaviour.attempt (failures ++ [reason]) (List.ofFn fun index : Fin count =>
        grammar.outcome fuel (alternatives index.succ)) cursor later ≠ .unfinished →
      ∃ fuel', Behaviour.attempt failures (List.ofFn fun index => grammar.outcome fuel'
          (alternatives index)) cursor session =
        Behaviour.attempt (failures ++ [reason]) (List.ofFn fun index : Fin count =>
          grammar.outcome fuel (alternatives index.succ)) cursor later := by
  obtain ⟨enough, later, first⟩ := fails
  refine ⟨later, fun fuel finished => ⟨max enough fuel, ?_⟩⟩
  rw [List.ofFn_succ]
  show (grammar.outcome (max enough fuel) (alternatives 0) cursor session).orElse _ = _
  rw [grammar.outcome_eq_of_le (Nat.le_max_left enough fuel) _ _ _ (by rw [first]; nofun), first]
  exact attempt_eq_of_le (Nat.le_max_right enough fuel) _ _ finished

theorem exists_attempt_success (pure : ∀ index, grammar.Pure (alternatives index))
    (failures : List Failure) {winner : Fin count} {next : Cursor signature.medium} {value : A}
    (wins : grammar.Succeeds (alternatives winner) cursor session next value)
    (before : ∀ index < winner, grammar.Fails (alternatives index) cursor session) :
    ∃ fuel final, Behaviour.attempt failures (List.ofFn fun index => grammar.outcome fuel
      (alternatives index)) cursor session = .success next value final := by
  induction count generalizing failures session with
  | zero => exact winner.elim0
  | succ count inductionHypothesis =>
      cases winner using Fin.cases with
      | zero =>
          obtain ⟨fuel, final, success⟩ := wins
          refine ⟨fuel, final, ?_⟩
          rw [List.ofFn_succ]
          show (grammar.outcome fuel (alternatives 0) cursor session).orElse _ = _
          rw [success]
          rfl
      | succ winner =>
          obtain ⟨enough, reason, first⟩ := before 0 winner.succ_pos
          obtain ⟨later, whole⟩ := exists_attempt_eq_of_fails ⟨enough, first⟩ failures
          obtain ⟨fuel, final, success⟩ := inductionHypothesis (fun index => pure index.succ)
            (failures ++ [reason]) ((pure winner.succ).succeeds wins later)
            fun index earlier => (pure index.succ).fails_in
              (before index.succ (Fin.succ_lt_succ_iff.mpr earlier)) later
          obtain ⟨fuel', same⟩ := whole fuel (by rw [success]; nofun)
          exact ⟨fuel', final, same.trans success⟩

theorem exists_attempt_failure (pure : ∀ index, grammar.Pure (alternatives index))
    (failures : List Failure) {reasons : Fin count → Failure}
    (fails : ∀ index, grammar.FailsWith (alternatives index) cursor session (reasons index)) :
    ∃ fuel final, Behaviour.attempt failures (List.ofFn fun index => grammar.outcome fuel
      (alternatives index)) cursor session =
        .failure (Behaviour.choiceFailure cursor.index (failures ++ List.ofFn reasons)) final := by
  induction count generalizing failures session with
  | zero =>
      simp only [List.ofFn_zero, List.append_nil]
      exact ⟨0, _, rfl⟩
  | succ count inductionHypothesis =>
      obtain ⟨later, whole⟩ := exists_attempt_eq_of_fails (fails 0) failures
      obtain ⟨fuel, final, failure⟩ := inductionHypothesis (fun index => pure index.succ)
        (failures ++ [reasons 0]) fun index => (pure index.succ).fails (fails index.succ) later
      obtain ⟨fuel', same⟩ := whole fuel (by rw [failure]; nofun)
      rw [append_ofFn_succ]
      exact ⟨fuel', final, same.trans failure⟩

theorem outcome_choice (fuel : Nat) :
    grammar.outcome fuel (.choice alternatives) cursor session =
      Behaviour.attempt [] (List.ofFn fun index => grammar.outcome fuel (alternatives index)) cursor
        (session.record cursor.index (.choice count) .began) := by
  show Behaviour.choice _ cursor session = _
  rw [Behaviour.choice, List.length_ofFn]
  rfl

/-- A choice of pure alternatives has the success of one of them just when it succeeds and those
before it fail. -/
theorem succeeds_choice_iff (pure : ∀ index, grammar.Pure (alternatives index))
    {next : Cursor signature.medium} {value : A} :
    grammar.Succeeds (.choice alternatives) cursor session next value ↔
      ∃ winner, grammar.Succeeds (alternatives winner) cursor session next value ∧
        ∀ index < winner, grammar.Fails (alternatives index) cursor session := by
  constructor
  · rintro ⟨fuel, final, success⟩
    rw [outcome_choice, Behaviour.attempt_eq_success_iff] at success
    obtain ⟨sessions, winner, _, before, wins⟩ := success
    refine ⟨winner, (pure winner).succeeds ⟨fuel, final, wins⟩ session, ?_⟩
    intro index earlier
    obtain ⟨reason, failure⟩ := before index earlier
    exact (pure index).fails_in ⟨fuel, reason, _, failure⟩ session
  · rintro ⟨winner, wins, before⟩
    let begun := session.record cursor.index (.choice count) .began
    obtain ⟨fuel, final, success⟩ := exists_attempt_success pure []
      ((pure winner).succeeds wins begun)
      fun index earlier => (pure index).fails_in (before index earlier) begun
    refine ⟨fuel, final, ?_⟩
    rw [outcome_choice, success]

/-- It fails just when all of them fail, and their failures are the causes in order. -/
theorem failsWith_choice_iff (pure : ∀ index, grammar.Pure (alternatives index))
    {reason : Failure} :
    grammar.FailsWith (.choice alternatives) cursor session reason ↔
      ∃ reasons : Fin count → Failure,
        (∀ index, grammar.FailsWith (alternatives index) cursor session (reasons index)) ∧
          reason = Behaviour.choiceFailure cursor.index (List.ofFn reasons) := by
  constructor
  · rintro ⟨fuel, final, failure⟩
    rw [outcome_choice, Behaviour.attempt_eq_failure_iff] at failure
    obtain ⟨sessions, reasons, _, along, rfl, _⟩ := failure
    refine ⟨reasons, fun index => ?_, rfl⟩
    exact (pure index).fails ⟨fuel, _, along index⟩ session
  · rintro ⟨reasons, fails, rfl⟩
    let begun := session.record cursor.index (.choice count) .began
    obtain ⟨fuel, final, failure⟩ := exists_attempt_failure pure []
      fun index => (pure index).fails (fails index) begun
    refine ⟨fuel, final, ?_⟩
    rw [outcome_choice, failure]
    rfl

theorem choiceFailure_injective (index : Nat) :
    Function.Injective (Behaviour.choiceFailure index) := by
  intro failures failures' same
  have causes := congrArg Failure.causes same
  rwa [Behaviour.choiceFailure, Behaviour.choiceFailure, Failure.newAt, Failure.causes_causedByAll,
    Failure.causes_causedByAll] at causes

/-- At most one alternative succeeds at this cursor. -/
def AtMostOneSucceeds (grammar : Grammar signature) (alternatives : Fin count → Parser signature A)
    (cursor : Cursor signature.medium) (session : Session signature.Memory) : Prop :=
  ∀ first second next next' value value',
    grammar.Succeeds (alternatives first) cursor session next value →
      grammar.Succeeds (alternatives second) cursor session next' value' → first = second

/-- A choice and the choice of its alternatives in another order have the same success, or both fail
with the same failures in the orders of their alternatives. Only an alternative that does not return
can keep one of them from ending so. -/
structure EndsInAnyOrder (grammar : Grammar signature)
    (alternatives : Fin count → Parser signature A) (cursor : Cursor signature.medium)
    (session : Session signature.Memory) (order : Equiv.Perm (Fin count)) : Prop where
  ends : (∃ next value, grammar.Succeeds (.choice alternatives) cursor session next value ∧
      grammar.Succeeds (.choice (alternatives ∘ order)) cursor session next value) ∨
    (∃ reasons : Fin count → Failure,
      grammar.FailsWith (.choice alternatives) cursor session
        (Behaviour.choiceFailure cursor.index (List.ofFn reasons)) ∧
      grammar.FailsWith (.choice (alternatives ∘ order)) cursor session
        (Behaviour.choiceFailure cursor.index (List.ofFn (reasons ∘ order)))) ∨
    ∃ index, grammar.Diverges (alternatives index) cursor session ∨
      ∃ problem, grammar.Faults (alternatives index) cursor session problem
  success_unique : ∀ next next' value value',
    grammar.Succeeds (.choice alternatives) cursor session next value →
      grammar.Succeeds (.choice (alternatives ∘ order)) cursor session next' value' →
        next = next' ∧ value = value'
  failure_iff : ∀ reasons : Fin count → Failure,
    grammar.FailsWith (.choice alternatives) cursor session
        (Behaviour.choiceFailure cursor.index (List.ofFn reasons)) ↔
      grammar.FailsWith (.choice (alternatives ∘ order)) cursor session
        (Behaviour.choiceFailure cursor.index (List.ofFn (reasons ∘ order)))

theorem failsWith_choiceFailure_iff (pure : ∀ index, grammar.Pure (alternatives index))
    (reasons : Fin count → Failure) :
    grammar.FailsWith (.choice alternatives) cursor session
        (Behaviour.choiceFailure cursor.index (List.ofFn reasons)) ↔
      ∀ index, grammar.FailsWith (alternatives index) cursor session (reasons index) := by
  rw [failsWith_choice_iff pure]
  constructor
  · rintro ⟨reasons', fails, same⟩
    obtain rfl := List.ofFn_injective (choiceFailure_injective _ same)
    exact fails
  · intro fails
    exact ⟨reasons, fails, rfl⟩

/-- One alternative wins and all others fail, or all of them fail, unless one does not return. -/
theorem AtMostOneSucceeds.ends
    (one : grammar.AtMostOneSucceeds alternatives cursor session) :
    (∃ winner next value, grammar.Succeeds (alternatives winner) cursor session next value ∧
      ∀ index ≠ winner, grammar.Fails (alternatives index) cursor session) ∨
    (∃ reasons : Fin count → Failure, ∀ index,
      grammar.FailsWith (alternatives index) cursor session (reasons index)) ∨
    ∃ index, grammar.Diverges (alternatives index) cursor session ∨
      ∃ problem, grammar.Faults (alternatives index) cursor session problem := by
  by_cases stays : ∃ index, grammar.Diverges (alternatives index) cursor session ∨
    ∃ problem, grammar.Faults (alternatives index) cursor session problem
  · exact .inr (.inr stays)
  have fails {index : Fin count} (never : ¬ ∃ next value,
      grammar.Succeeds (alternatives index) cursor session next value) :
      grammar.Fails (alternatives index) cursor session := by
    rcases ends_of_not_diverges fun diverges => stays ⟨index, .inl diverges⟩ with
      succeeds | fails | faults
    · exact absurd succeeds never
    · exact fails
    · exact absurd ⟨index, .inr faults⟩ stays
  by_cases wins : ∃ winner next value,
    grammar.Succeeds (alternatives winner) cursor session next value
  · obtain ⟨winner, next, value, succeeds⟩ := wins
    refine .inl ⟨winner, next, value, succeeds, fun index other => fails ?_⟩
    rintro ⟨next', value', succeeds'⟩
    exact other (one index winner _ _ _ _ succeeds' succeeds)
  · have all (index : Fin count) : ∃ reason,
        grammar.FailsWith (alternatives index) cursor session reason := by
      obtain ⟨fuel, reason, failure⟩ := fails fun succeeds => wins ⟨index, succeeds⟩
      exact ⟨reason, fuel, failure⟩
    exact .inr (.inl ⟨_, fun index => (all index).choose_spec⟩)

/-- The choice succeeds with its only winner, wherever that stands. -/
theorem succeeds_choice_of_only (pure : ∀ index, grammar.Pure (alternatives index))
    {winner : Fin count} {next : Cursor signature.medium} {value : A}
    (wins : grammar.Succeeds (alternatives winner) cursor session next value)
    (others : ∀ index ≠ winner, grammar.Fails (alternatives index) cursor session)
    (order : Equiv.Perm (Fin count)) :
    grammar.Succeeds (.choice (alternatives ∘ order)) cursor session next value := by
  refine (succeeds_choice_iff fun index => pure (order index)).mpr ⟨order.symm winner, ?_, ?_⟩
  · rwa [order.apply_symm_apply]
  · intro index earlier
    apply others
    rintro rfl
    rw [order.symm_apply_apply] at earlier
    exact lt_irrefl index earlier

theorem endsInAnyOrder (pure : ∀ index, grammar.Pure (alternatives index))
    (one : grammar.AtMostOneSucceeds alternatives cursor session) (order : Equiv.Perm (Fin count)) :
    grammar.EndsInAnyOrder alternatives cursor session order := by
  have ordered (index : Fin count) : grammar.Pure ((alternatives ∘ order) index) :=
    pure (order index)
  have failure_iff (reasons : Fin count → Failure) :
      grammar.FailsWith (.choice alternatives) cursor session
          (Behaviour.choiceFailure cursor.index (List.ofFn reasons)) ↔
        grammar.FailsWith (.choice (alternatives ∘ order)) cursor session
          (Behaviour.choiceFailure cursor.index (List.ofFn (reasons ∘ order))) := by
    rw [failsWith_choiceFailure_iff pure, failsWith_choiceFailure_iff ordered]
    exact order.forall_congr_right.symm
  constructor
  case ends =>
    rcases one.ends with ⟨winner, next, value, wins, others⟩ | ⟨reasons, fails⟩ | stays
    · exact .inl ⟨next, value, succeeds_choice_of_only pure wins others 1,
        succeeds_choice_of_only pure wins others order⟩
    · have failed := (failsWith_choiceFailure_iff pure reasons).mpr fails
      exact .inr (.inl ⟨reasons, failed, (failure_iff reasons).mp failed⟩)
    · exact .inr (.inr stays)
  case success_unique =>
    intro next next' value value' succeeds succeeds'
    obtain ⟨winner, wins, _⟩ := (succeeds_choice_iff pure).mp succeeds
    obtain ⟨winner', wins', _⟩ := (succeeds_choice_iff ordered).mp succeeds'
    obtain rfl := one _ _ _ _ _ _ wins wins'
    exact wins.unique wins'
  case failure_iff => exact failure_iff

/-- A choice tries its alternatives in order and at one cursor. It returns the success of the first
one that succeeds, and if all of them fail, then their failures are the causes in order. Pure
alternatives of which at most one succeeds may stand in any order. -/
theorem choice_takes_first_success (grammar : Grammar signature)
    (alternatives : Fin count → Parser signature A) (cursor : Cursor signature.medium)
    (session : Session signature.Memory) :
    (∀ fuel, Behaviour.TriesInOrder (fun index => grammar.outcome fuel (alternatives index)) cursor
      (session.record cursor.index (.choice count) .began)
      (grammar.outcome fuel (.choice alternatives) cursor session) fun calls =>
        Behaviour.choice (List.ofFn fun index : Fin count =>
          .logged index (grammar.outcome fuel (alternatives index))) cursor
            (session.logging calls)) ∧
    (∀ reasons, (Behaviour.choiceFailure cursor.index reasons).report =
        ⟨.choice, "no alternative matched at index " ++ toString cursor.index, some cursor.index⟩ ∧
      (Behaviour.choiceFailure cursor.index reasons).causes = reasons ∧
      (Behaviour.choiceFailure cursor.index reasons).cause = Cause.ofFailures reasons) ∧
    ((∀ index, grammar.Pure (alternatives index)) →
      (∀ next value, grammar.Succeeds (.choice alternatives) cursor session next value ↔
        ∃ winner, grammar.Succeeds (alternatives winner) cursor session next value ∧
          ∀ index < winner, grammar.Fails (alternatives index) cursor session) ∧
      (∀ reason, grammar.FailsWith (.choice alternatives) cursor session reason ↔
        ∃ reasons : Fin count → Failure,
          (∀ index, grammar.FailsWith (alternatives index) cursor session (reasons index)) ∧
            reason = Behaviour.choiceFailure cursor.index (List.ofFn reasons)) ∧
      (grammar.AtMostOneSucceeds alternatives cursor session →
        ∀ order, grammar.EndsInAnyOrder alternatives cursor session order)) := by
  refine ⟨fun fuel => ?_, fun reasons => ?_, fun pure => ⟨fun _ _ => succeeds_choice_iff pure,
    fun _ => failsWith_choice_iff pure, endsInAnyOrder pure⟩⟩
  · exact Behaviour.choice_triesInOrder _ cursor session
  · refine ⟨Failure.report_causedByAll _ reasons, Failure.causes_causedByAll _ reasons, ?_⟩
    rcases reasons with _ | ⟨first, _ | ⟨second, others⟩⟩
    · rfl
    · rfl
    · rfl

end Grammar

namespace Tokens

/-- Only one of these two literals is there, and so it is found in any order. -/
theorem literals_in_any_order :
    let alternatives : Fin 2 → Parser signature String :=
      fun index => .leaf (.literal (if index = 0 then "a" else "b"))
    (∀ index, grammar.Pure (alternatives index)) ∧
    grammar.AtMostOneSucceeds alternatives (.ofText "b") (.initial ()) ∧
    grammar.Succeeds (.choice alternatives) (.ofText "b") (.initial ()) ⟨"b".toList, 1⟩ "b" ∧
      ∀ order, grammar.EndsInAnyOrder alternatives (.ofText "b") (.initial ()) order := by
  intro alternatives
  have pure (index : Fin 2) : grammar.Pure (alternatives index) :=
    Grammar.pure_of_subsingleton grammar (alternatives index)
  have absent : grammar.Fails (alternatives 0) (.ofText "b") (.initial ()) := ⟨0, _, _, rfl⟩
  have one : grammar.AtMostOneSucceeds alternatives (.ofText "b") (.initial ()) := by
    have second {index : Fin 2} {next : Cursor .text} {value : String}
        (succeeds : grammar.Succeeds (alternatives index) (.ofText "b") (.initial ()) next value) :
        index = 1 := by
      cases index using Fin.cases with
      | zero => exact absurd absent succeeds.not_fails
      | succ index => exact congrArg Fin.succ (Subsingleton.elim index 0)
    intro first other next next' value value' succeeds succeeds'
    exact (second succeeds).trans (second succeeds').symm
  have wins : grammar.Succeeds (.choice alternatives) (.ofText "b") (.initial ())
    ⟨"b".toList, 1⟩ "b" := ⟨0, _, rfl⟩
  obtain ⟨_, _, ends⟩ :=
    Grammar.choice_takes_first_success grammar alternatives (.ofText "b") (.initial ())
  exact ⟨pure, one, wins, (ends pure).2.2 one⟩

end Tokens

end ParserCombinators
