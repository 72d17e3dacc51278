/-
This file compares three ways to run parts one after another: a sequence, parts that are chained to
the right, and a curried function that is applied to the parts from the left. All of them run the
parts in order up to the first one that fails.
-/

import Mathlib.Data.Fin.Tuple.Basic
import ParserCombinators.Proofs.Approximation
import ParserCombinators.Proofs.Outcome

namespace ParserCombinators

section

variable {B : Type}

/-- A function of as many arguments as there are types. -/
def Curried : (count : Nat) → (Fin count → Type) → Type → Type
  | 0, _, B => B
  | count + 1, types, B => types 0 → Curried count (fun part => types part.succ) B

/-- The arguments are given one at a time. -/
def curry : {count : Nat} → {types : Fin count → Type} →
    (((part : Fin count) → types part) → B) → Curried count types B
  | 0, _, build => build nofun
  | _ + 1, _, build => fun first => curry fun others => build (Fin.cons first others)

/-- All arguments are given at once. -/
def uncurry : {count : Nat} → {types : Fin count → Type} → Curried count types B →
    ((part : Fin count) → types part) → B
  | 0, _, curried, _ => curried
  | _ + 1, _, curried, values => uncurry (curried (values 0)) fun part => values part.succ

theorem uncurry_curry {count : Nat} {types : Fin count → Type}
    (build : ((part : Fin count) → types part) → B) : uncurry (curry build) = build := by
  induction count with
  | zero =>
      funext values
      exact congrArg build (Subsingleton.elim _ values)
  | succ count inductionHypothesis =>
      funext values
      show uncurry (curry fun others => build (Fin.cons (values 0) others)) _ = _
      rw [inductionHypothesis]
      exact congrArg build (Fin.cons_self_tail values)

/-- The tuple of these values. -/
def Tuple.ofValues : {types : List Type} → ((part : Fin types.length) → types.get part) →
    Tuple types
  | [], _ => ()
  | _ :: _, values => (values ⟨0, Nat.succ_pos _⟩, ofValues fun part => values part.succ)

end

namespace Parser

variable {signature : Signature} {B : Type}

/-- Each part chooses the parts behind it, and in the end the values are put together. -/
def chained : {count : Nat} → {types : Fin count → Type} →
    ((part : Fin count) → Parser signature (types part)) →
    (((part : Fin count) → types part) → B) → Parser signature B
  | 0, _, _, build => succeed (build nofun)
  | _ + 1, _, parts, build =>
      chain (parts 0) fun first =>
        chained (fun part => parts part.succ) fun others => build (Fin.cons first others)

/-- A function is applied to one part after another. -/
def applied : {count : Nat} → {types : Fin count → Type} →
    Parser signature (Curried count types B) →
    ((part : Fin count) → Parser signature (types part)) → Parser signature B
  | 0, _, curried, _ => curried
  | _ + 1, _, curried, parts => applied (ap curried (parts 0)) fun part => parts part.succ

end Parser

namespace Behaviour

variable {medium : Medium} {Memory A B C : Type}

def chained : {count : Nat} → {types : Fin count → Type} →
    ((part : Fin count) → Behaviour medium Memory (types part)) →
    (((part : Fin count) → types part) → B) → Behaviour medium Memory B
  | 0, _, _, build => succeed (build nofun)
  | _ + 1, _, parts, build =>
      chain (parts 0) fun first =>
        chained (fun part => parts part.succ) fun others => build (Fin.cons first others)

def applied : {count : Nat} → {types : Fin count → Type} →
    Behaviour medium Memory (Curried count types B) →
    ((part : Fin count) → Behaviour medium Memory (types part)) → Behaviour medium Memory B
  | 0, _, curried, _ => curried
  | _ + 1, _, curried, parts => applied (ap curried (parts 0)) fun part => parts part.succ

/-- Applying a function from the left is the same as chaining the parts to the right. -/
theorem applied_eq_chain {count : Nat} {types : Fin count → Type}
    (curried : Behaviour medium Memory (Curried count types B))
    (parts : (part : Fin count) → Behaviour medium Memory (types part)) :
    applied curried parts = chain curried fun build => chained parts (uncurry build) := by
  induction count with
  | zero => exact (chain_succeed curried).symm
  | succ count inductionHypothesis =>
      exact (inductionHypothesis (ap curried (parts 0)) fun part => parts part.succ).trans
        (chain_ap curried (parts 0) _)

theorem applied_succeed_curry {count : Nat} {types : Fin count → Type}
    (parts : (part : Fin count) → Behaviour medium Memory (types part))
    (build : ((part : Fin count) → types part) → B) :
    applied (succeed (curry build)) parts = chained parts build := by
  rw [applied_eq_chain]
  show chained parts (uncurry (curry build)) = _
  rw [uncurry_curry]

theorem map_tuple {types : List Type}
    (parts : (part : Fin types.length) → Behaviour medium Memory (types.get part))
    (convert : Tuple types → B) :
    map convert (tuple parts) = chained parts fun values => convert (Tuple.ofValues values) := by
  induction types with
  | nil => rfl
  | cons A types inductionHypothesis =>
      have others (first : A) : map convert (map (first, ·) (tuple fun part => parts part.succ)) =
          chained (fun part => parts part.succ) fun values =>
            convert (first, Tuple.ofValues values) := by
        rw [map_map]
        exact inductionHypothesis (fun part => parts part.succ) fun others =>
          convert (first, others)
      exact (map_chain convert (parts 0) _).trans (congrArg (chain (parts 0)) (funext others))

theorem map_row {count : Nat} (parts : Fin count → Behaviour medium Memory A)
    (convert : List A → B) :
    map convert (row (List.ofFn parts)) =
      chained parts fun values => convert (List.ofFn values) := by
  induction count generalizing convert with
  | zero => rfl
  | succ count inductionHypothesis =>
      have others (first : A) :
          map convert (map (first :: ·) (row (List.ofFn fun part => parts part.succ))) =
            chained (fun part => parts part.succ) fun values =>
              convert (List.ofFn (Fin.cons first values)) := by
        rw [map_map, inductionHypothesis]
        simp only [List.ofFn_succ, Fin.cons_zero, Fin.cons_succ]
        rfl
      rw [List.ofFn_succ, row_cons]
      exact (map_chain convert (parts 0) _).trans (congrArg (chain (parts 0)) (funext others))

/-- Every part succeeds, and each one begins where the one before it has ended. -/
def SucceedsAlong {count : Nat} {types : Fin count → Type}
    (parts : (part : Fin count) → Behaviour medium Memory (types part))
    (cursors : Nat → Cursor medium) (sessions : Nat → Session Memory)
    (values : (part : Fin count) → types part) : Prop :=
  ∀ part : Fin count, parts part (cursors part) (sessions part) =
    .success (cursors (part + 1)) (values part) (sessions (part + 1))

/-- The parts before the failing one succeed, and it begins where the last of them has ended. -/
structure FailsAlong {count : Nat} {types : Fin count → Type}
    (parts : (part : Fin count) → Behaviour medium Memory (types part))
    (cursors : Nat → Cursor medium) (sessions : Nat → Session Memory) (failing : Fin count)
    (reason : Failure) (final : Session Memory) : Prop where
  before : ∀ part < failing, ∃ value, parts part (cursors part) (sessions part) =
    .success (cursors (part + 1)) value (sessions (part + 1))
  fails : parts failing (cursors failing) (sessions failing) = .failure reason final

/-- A first element in front of all others. -/
def inFront {X : Type} (first : X) (others : Nat → X) : Nat → X
  | 0 => first
  | number + 1 => others number

section

variable {count : Nat} {types : Fin count → Type}
  (parts : (part : Fin count) → Behaviour medium Memory (types part))
  (build : ((part : Fin count) → types part) → B)
  (cursor : Cursor medium) (session : Session Memory)

/-- The chained parts succeed just when all parts succeed one after another. -/
theorem chained_eq_success_iff (next : Cursor medium) (value : B) (final : Session Memory) :
    chained parts build cursor session = .success next value final ↔
      ∃ cursors sessions values, cursors 0 = cursor ∧ sessions 0 = session ∧
        SucceedsAlong parts cursors sessions values ∧
        next = cursors count ∧ value = build values ∧ final = sessions count := by
  induction count generalizing cursor session with
  | zero =>
      constructor
      · intro success
        cases success
        exact ⟨fun _ => next, fun _ => final, nofun, rfl, rfl, nofun, rfl, rfl, rfl⟩
      · rintro ⟨cursors, sessions, values, rfl, rfl, _, rfl, rfl, rfl⟩
        exact congrArg (Outcome.success _ · _) (congrArg build (Subsingleton.elim _ values))
  | succ count inductionHypothesis =>
      constructor
      · intro success
        obtain ⟨middle, first, later, begun, others⟩ := Outcome.andThen_eq_success success
        obtain ⟨cursors, sessions, values, rfl, rfl, along, rfl, rfl, rfl⟩ :=
          (inductionHypothesis _ _ _ _).mp others
        exact ⟨inFront cursor cursors, inFront session sessions, Fin.cons first values, rfl, rfl,
          Fin.cases begun along, rfl, rfl, rfl⟩
      · rintro ⟨cursors, sessions, values, rfl, rfl, along, rfl, rfl, rfl⟩
        have whole : build values = build (Fin.cons (values 0) fun part => values part.succ) :=
          congrArg build (Fin.cons_self_tail values).symm
        have others := (inductionHypothesis (fun part => parts part.succ)
          (fun others => build (Fin.cons (values 0) others)) (cursors 1) (sessions 1)).mpr
            ⟨fun number => cursors (number + 1), fun number => sessions (number + 1),
              fun part => values part.succ, rfl, rfl, fun part => along part.succ, rfl, whole, rfl⟩
        show (parts 0 (cursors 0) (sessions 0)).andThen _ = _
        rw [show parts 0 (cursors 0) (sessions 0) = _ from along 0]
        exact others

/-- The chained parts fail just when one part fails and those before it succeed. -/
theorem chained_eq_failure_iff (reason : Failure) (final : Session Memory) :
    chained parts build cursor session = .failure reason final ↔
      ∃ cursors sessions failing, cursors 0 = cursor ∧ sessions 0 = session ∧
        FailsAlong parts cursors sessions failing reason final := by
  induction count generalizing cursor session with
  | zero =>
      constructor
      · nofun
      · rintro ⟨_, _, failing, _⟩
        exact failing.elim0
  | succ count inductionHypothesis =>
      constructor
      · intro failure
        rcases Outcome.andThen_eq_failure failure with
          ⟨middle, first, later, begun, others⟩ | begun
        · obtain ⟨cursors, sessions, failing, rfl, rfl, before, fails⟩ :=
            (inductionHypothesis _ _ _ _).mp others
          refine ⟨inFront cursor cursors, inFront session sessions, failing.succ, rfl, rfl, ?_,
            fails⟩
          intro part earlier
          cases part using Fin.cases with
          | zero => exact ⟨first, begun⟩
          | succ part => exact before part (Fin.succ_lt_succ_iff.mp earlier)
        · exact ⟨fun _ => cursor, fun _ => session, 0, rfl, rfl, nofun, begun⟩
      · rintro ⟨cursors, sessions, failing, rfl, rfl, before, fails⟩
        show (parts 0 (cursors 0) (sessions 0)).andThen _ = _
        cases failing using Fin.cases with
        | zero =>
            rw [show parts 0 (cursors 0) (sessions 0) = _ from fails]
            rfl
        | succ failing =>
            obtain ⟨first, begun⟩ := before 0 failing.succ_pos
            rw [show parts 0 (cursors 0) (sessions 0) = _ from begun]
            exact (inductionHypothesis (fun part => parts part.succ) _ _ _).mpr
              ⟨fun number => cursors (number + 1), fun number => sessions (number + 1), failing,
                rfl, rfl, fun part earlier => before part.succ (Fin.succ_lt_succ_iff.mpr earlier),
                fails⟩

variable {parts build cursor session}

/-- The calls are logged along the way. -/
theorem SucceedsAlong.logged {cursors : Nat → Cursor medium} {sessions : Nat → Session Memory}
    {values : (part : Fin count) → types part}
    (along : SucceedsAlong parts cursors sessions values) (calls : List (Nat × Cursor medium)) :
    SucceedsAlong (fun part => Behaviour.logged part (parts part)) cursors
      (fun number => (sessions number).logging (calls ++ callsAlong cursors number)) values := by
  intro part
  exact (logged_logging (parts part) cursors part (sessions part) calls).trans
    (congrArg (Outcome.logging _) (along part))

theorem FailsAlong.logged {cursors : Nat → Cursor medium} {sessions : Nat → Session Memory}
    {failing : Fin count} {reason : Failure} {final : Session Memory}
    (along : FailsAlong parts cursors sessions failing reason final)
    (calls : List (Nat × Cursor medium)) :
    FailsAlong (fun part => Behaviour.logged part (parts part)) cursors
      (fun number => (sessions number).logging (calls ++ callsAlong cursors number)) failing reason
      (final.logging (calls ++ callsAlong cursors (failing + 1))) := by
  constructor
  case before =>
    intro part earlier
    obtain ⟨value, success⟩ := along.before part earlier
    refine ⟨value, ?_⟩
    rw [logged_logging, success]
    rfl
  case fails =>
    rw [logged_logging, along.fails]
    rfl

variable (parts build cursor session)

/-- An outcome comes from running the parts in order. It is a success just when all parts succeed
one after another, with their values in order, and a failure just when one part fails behind those
that succeed, for the reason of that part. A log of the calls has one call for each part that
succeeds and for the one that fails, in order, and no other call. -/
structure RunsInOrder (outcome : Outcome medium Memory B)
    (logged : List (Nat × Cursor medium) → Outcome medium (CallLog medium Memory) B) : Prop where
  success_iff : ∀ next value final, outcome = .success next value final ↔
    ∃ cursors sessions values, cursors 0 = cursor ∧ sessions 0 = session ∧
      SucceedsAlong parts cursors sessions values ∧
      next = cursors count ∧ value = build values ∧ final = sessions count
  failure_iff : ∀ reason final, outcome = .failure reason final ↔
    ∃ cursors sessions failing, cursors 0 = cursor ∧ sessions 0 = session ∧
      FailsAlong parts cursors sessions failing reason final
  calls_of_success : ∀ calls cursors sessions values, cursors 0 = cursor → sessions 0 = session →
    SucceedsAlong parts cursors sessions values →
      logged calls = .success (cursors count) (build values)
        ((sessions count).logging (calls ++ callsAlong cursors count))
  calls_of_failure : ∀ calls cursors sessions failing reason final, cursors 0 = cursor →
    sessions 0 = session → FailsAlong parts cursors sessions failing reason final →
      logged calls = .failure reason (final.logging (calls ++ callsAlong cursors (failing + 1)))

theorem chained_runsInOrder :
    RunsInOrder parts build cursor session (chained parts build cursor session) fun calls =>
      chained (fun part => logged part (parts part)) build cursor (session.logging calls) where
  success_iff := chained_eq_success_iff parts build cursor session
  failure_iff := chained_eq_failure_iff parts build cursor session
  calls_of_success := by
    rintro calls cursors sessions values rfl rfl along
    exact (chained_eq_success_iff _ build _ _ _ _ _).mpr ⟨cursors, _, values, rfl,
      congrArg (Session.logging _) (List.append_nil calls), along.logged calls, rfl, rfl, rfl⟩
  calls_of_failure := by
    rintro calls cursors sessions failing reason final rfl rfl along
    exact (chained_eq_failure_iff _ build _ _ _ _).mpr ⟨cursors, _, failing, rfl,
      congrArg (Session.logging _) (List.append_nil calls), along.logged calls⟩

end

/-- A sequence is announced, and then its parts are chained. -/
theorem sequence_eq_chained {types : List Type}
    (parts : (part : Fin types.length) → Behaviour medium Memory (types.get part)) :
    sequence parts = announce (.sequence types.length) (chained parts Tuple.ofValues) := by
  rw [sequence]
  exact congrArg (announce _) ((chain_succeed (tuple parts)).symm.trans (map_tuple parts id))

theorem sequenceList_eq_chained {count : Nat} (parts : Fin count → Behaviour medium Memory A) :
    sequenceList (List.ofFn parts) = announce (.sequence count) (chained parts List.ofFn) := by
  rw [sequenceList, List.length_ofFn]
  exact congrArg (announce _) ((chain_succeed (row (List.ofFn parts))).symm.trans
    (map_row parts id))

end Behaviour

namespace Parser

variable {signature : Signature} {B : Type} {count : Nat} {types : Fin count → Type}
  {call : (rule : signature.Rule) →
    Behaviour signature.medium signature.Memory (signature.result rule)}
  {fuel : Nat}

theorem behaviour_chained (parts : (part : Fin count) → Parser signature (types part))
    (build : ((part : Fin count) → types part) → B) :
    (chained parts build).behaviour call fuel =
      .chained (fun part => (parts part).behaviour call fuel) build := by
  induction count with
  | zero => rfl
  | succ count inductionHypothesis =>
      exact congrArg (Behaviour.chain _) (funext fun first => inductionHypothesis _ _)

theorem behaviour_applied (curried : Parser signature (Curried count types B))
    (parts : (part : Fin count) → Parser signature (types part)) :
    (applied curried parts).behaviour call fuel =
      .applied (curried.behaviour call fuel) fun part => (parts part).behaviour call fuel := by
  induction count with
  | zero => rfl
  | succ count inductionHypothesis => exact inductionHypothesis (ap curried (parts 0)) _

end Parser

namespace Grammar

variable {signature : Signature} (grammar : Grammar signature) (fuel : Nat)
  (cursor : Cursor signature.medium) (session : Session signature.Memory)

section

variable {B : Type} {count : Nat} {types : Fin count → Type}
  (parts : (part : Fin count) → Parser signature (types part))
  (build : ((part : Fin count) → types part) → B)

theorem outcome_chained :
    grammar.outcome fuel (.chained parts build) =
      .chained (fun part => grammar.outcome fuel (parts part)) build :=
  Parser.behaviour_chained parts build

theorem outcome_applied :
    grammar.outcome fuel (.applied (.succeed (curry build)) parts) =
      .applied (.succeed (curry build)) fun part => grammar.outcome fuel (parts part) :=
  Parser.behaviour_applied (.succeed (curry build)) parts

/-- A sequence, chained parts and an applied function have one meaning: they all run the same parts
in order and build the same value. A sequence only announces itself before. -/
structure OneMeaning (sequence : Parser signature B)
    (logged : Behaviour signature.medium (CallLog signature.medium signature.Memory) B) : Prop where
  sequence_alike : (grammar.outcome fuel sequence cursor session).Alike (.same _)
    (grammar.outcome fuel (.chained parts build) cursor session)
  applied_eq : grammar.outcome fuel (.applied (.succeed (curry build)) parts) cursor session =
    grammar.outcome fuel (.chained parts build) cursor session
  sequence_runs : Behaviour.RunsInOrder (fun part => grammar.outcome fuel (parts part)) build cursor
    (session.record cursor.index (.sequence count) .began)
    (grammar.outcome fuel sequence cursor session) fun calls =>
      logged cursor (session.logging calls)
  chained_runs : Behaviour.RunsInOrder (fun part => grammar.outcome fuel (parts part)) build cursor
    session (grammar.outcome fuel (.chained parts build) cursor session) fun calls =>
      Behaviour.chained (fun part => .logged part (grammar.outcome fuel (parts part))) build cursor
        (session.logging calls)
  applied_runs : Behaviour.RunsInOrder (fun part => grammar.outcome fuel (parts part)) build cursor
    session (grammar.outcome fuel (.applied (.succeed (curry build)) parts) cursor session)
      fun calls => Behaviour.applied (.succeed (curry build))
        (fun part => .logged part (grammar.outcome fuel (parts part))) cursor
          (session.logging calls)

/-- It is enough that a sequence announces itself before its parts are chained. -/
theorem oneMeaning_of_announce {sequence : Parser signature B}
    {logged : Behaviour signature.medium (CallLog signature.medium signature.Memory) B}
    (announces : grammar.outcome fuel sequence = .announce (.sequence count)
      (.chained (fun part => grammar.outcome fuel (parts part)) build))
    (loggedAnnounces : logged = .announce (.sequence count)
      (.chained (fun part => .logged part (grammar.outcome fuel (parts part))) build)) :
    grammar.OneMeaning fuel cursor session parts build sequence logged := by
  have runs (begun : Session signature.Memory) :=
    Behaviour.chained_runsInOrder (fun part => grammar.outcome fuel (parts part)) build cursor begun
  constructor
  case sequence_alike =>
    rw [announces, ← outcome_chained]
    exact grammar.outcome_alike_same fuel (.chained parts build) cursor cursor rfl _ session rfl
  case applied_eq => rw [outcome_applied, Behaviour.applied_succeed_curry, outcome_chained]
  case sequence_runs =>
    rw [announces, loggedAnnounces]
    exact runs (session.record cursor.index (.sequence count) .began)
  case chained_runs =>
    rw [outcome_chained]
    exact runs session
  case applied_runs =>
    rw [outcome_applied, Behaviour.applied_succeed_curry]
    simp only [Behaviour.applied_succeed_curry]
    exact runs session

end

/-- Sequences of a tuple and of a list have one meaning with chained parts and with an applied
function. -/
theorem sequences_have_one_meaning :
    (∀ {types : List Type} (parts : (part : Fin types.length) → Parser signature (types.get part)),
      grammar.OneMeaning fuel cursor session parts Tuple.ofValues (.sequence parts)
        (.sequence fun part => .logged part (grammar.outcome fuel (parts part)))) ∧
    ∀ {A : Type} {count : Nat} (parts : Fin count → Parser signature A),
      grammar.OneMeaning fuel cursor session parts List.ofFn (.sequenceList parts)
        (.sequenceList
          (List.ofFn fun part => .logged part (grammar.outcome fuel (parts part)))) := by
  constructor
  · intro types parts
    exact oneMeaning_of_announce grammar fuel cursor session parts Tuple.ofValues
      (Behaviour.sequence_eq_chained _) (Behaviour.sequence_eq_chained _)
  · intro A count parts
    exact oneMeaning_of_announce grammar fuel cursor session parts List.ofFn
      (Behaviour.sequenceList_eq_chained _) (Behaviour.sequenceList_eq_chained _)

end Grammar

end ParserCombinators
