/-
This file finds the failure that got furthest. It is the first leaf whose position is maximal, and
the causes can be searched one by one.
-/

import Mathlib.Data.List.Induction
import Mathlib.Order.WithBot
import ParserCombinators.Proofs.Failure.Parts

namespace ParserCombinators.Failure

/-- The position in an order that puts an absent position before every known one. -/
def reach (failure : Failure) : WithBot Nat :=
  match failure.position with
  | some position => WithBot.some position
  | none => ⊥

theorem before_iff_reach_lt (first second : Failure) :
    before first.position second.position = true ↔ first.reach < second.reach := by
  rw [reach, reach]
  cases first.position <;> cases second.position <;> simp [before]

/-- Every failure of the list before this one got less far, and none behind it got further. -/
def IsFirstMaximum (best : Failure) (failures : List Failure) : Prop :=
  ∃ earlier later, failures = earlier ++ best :: later ∧
    (∀ other ∈ earlier, other.reach < best.reach) ∧ ∀ other ∈ later, other.reach ≤ best.reach

/-- Of two members at which a list is split, one stands before the other or they are the same. -/
theorem mem_or_eq_or_mem_of_append_eq {A : Type} {first second : A}
    {earlier later earlier' later' : List A}
    (same : earlier ++ first :: later = earlier' ++ second :: later') :
    first ∈ earlier' ∨ first = second ∨ second ∈ earlier := by
  rcases List.append_eq_append_iff.mp same with
    ⟨between, longer, split⟩ | ⟨between, longer, split⟩
  · cases between with
    | nil => exact .inr (.inl (List.cons.inj split).1)
    | cons next between => simp [longer, (List.cons.inj split).1]
  · cases between with
    | nil => exact .inr (.inl (List.cons.inj split).1.symm)
    | cons next between => simp [longer, (List.cons.inj split).1]

namespace IsFirstMaximum

variable {best best' : Failure} {failures : List Failure}

theorem mem (maximum : best.IsFirstMaximum failures) : best ∈ failures := by
  obtain ⟨earlier, later, rfl, _, _⟩ := maximum
  exact List.mem_append_right earlier List.mem_cons_self

theorem reach_le (maximum : best.IsFirstMaximum failures) {other : Failure}
    (member : other ∈ failures) : other.reach ≤ best.reach := by
  obtain ⟨earlier, later, rfl, before, behind⟩ := maximum
  rcases List.mem_append.mp member with isEarlier | notEarlier
  · exact (before other isEarlier).le
  · rcases List.mem_cons.mp notEarlier with rfl | isLater
    · exact le_rfl
    · exact behind other isLater

/-- A list has at most one first maximum. -/
theorem unique (maximum : best.IsFirstMaximum failures)
    (maximum' : best'.IsFirstMaximum failures) : best = best' := by
  have notLess := (maximum.reach_le maximum'.mem).not_gt
  have notLess' := (maximum'.reach_le maximum.mem).not_gt
  obtain ⟨earlier, later, same, before, _⟩ := maximum
  obtain ⟨earlier', later', same', before', _⟩ := maximum'
  rw [same] at same'
  -- The one that stood earlier in the list would be less than the other one.
  rcases mem_or_eq_or_mem_of_append_eq same' with isEarlier | equal | isEarlier
  · exact absurd (before' best isEarlier) notLess
  · exact equal
  · exact absurd (before best' isEarlier) notLess'

/-- One more failure at the end of the list is the first maximum only if it got further. -/
theorem further (maximum : best.IsFirstMaximum failures) (candidate : Failure) :
    (best.further candidate).IsFirstMaximum (failures ++ [candidate]) := by
  rw [Failure.further]
  split
  next passed =>
    rw [before_iff_reach_lt] at passed
    refine ⟨failures, [], rfl, ?_, List.forall_mem_nil _⟩
    intro other member
    exact (maximum.reach_le member).trans_lt passed
  next notPassed =>
    rw [before_iff_reach_lt, not_lt] at notPassed
    obtain ⟨earlier, later, rfl, before, behind⟩ := maximum
    refine ⟨earlier, later ++ [candidate], by simp, before, ?_⟩
    intro other member
    rcases List.mem_append.mp member with isLater | isLast
    · exact behind other isLater
    · rw [List.mem_singleton.mp isLast]
      exact notPassed

/-- The search through a list ends at its first maximum. -/
theorem foldl_further (first : Failure) (others : List Failure) :
    (others.foldl Failure.further first).IsFirstMaximum (first :: others) := by
  induction others using List.reverseRecOn with
  | nil => exact ⟨[], [], rfl, List.forall_mem_nil _, List.forall_mem_nil _⟩
  | append_singleton others last inductionHypothesis =>
      rw [List.foldl_append, ← List.cons_append]
      exact inductionHypothesis.further last

end IsFirstMaximum

theorem furthest_isFirstMaximum {failure : Failure} (someLeaf : failure.leaves ≠ []) :
    failure.furthest.IsFirstMaximum failure.leaves := by
  rw [furthest]
  split
  next nothing => exact absurd nothing someLeaf
  next first others same =>
    rw [same]
    exact .foldl_further first others

theorem furthest_of_leaves_eq_nil {failure : Failure} (noLeaf : failure.leaves = []) :
    failure.furthest = failure := by
  rw [furthest, noLeaf]

theorem furthest_of_isLeaf {failure : Failure} (isLeaf : failure.isLeaf = true) :
    failure.furthest = failure := by
  cases failure with
  | leaf report => rfl
  | single report cause => cases isLeaf
  | many report causes => cases isLeaf

theorem furthest_furthest (failure : Failure) : failure.furthest.furthest = failure.furthest := by
  by_cases noLeaf : failure.leaves = []
  · rw [furthest_of_leaves_eq_nil noLeaf, furthest_of_leaves_eq_nil noLeaf]
  · exact furthest_of_isLeaf (isLeaf_of_mem_leaves (furthest_isFirstMaximum noLeaf).mem)

/-- The first maximum among what got furthest behind each failure is the first maximum of all their
leaves. -/
theorem IsFirstMaximum.of_map_furthest {best : Failure} {failures : List Failure}
    (someLeaves : ∀ failure ∈ failures, failure.leaves ≠ [])
    (maximum : best.IsFirstMaximum (failures.map furthest)) :
    best.IsFirstMaximum (failures.flatMap leaves) := by
  have within {failure leaf : Failure} (member : failure ∈ failures)
      (isLeaf : leaf ∈ failure.leaves) : leaf.reach ≤ failure.furthest.reach :=
    (furthest_isFirstMaximum (someLeaves failure member)).reach_le isLeaf
  obtain ⟨earlier, later, same, before, behind⟩ := maximum
  obtain ⟨failuresBefore, rest, rfl, rfl, sameRest⟩ := List.map_eq_append_iff.mp same
  obtain ⟨winner, failuresBehind, rfl, rfl, rfl⟩ := List.map_eq_cons_iff.mp sameRest
  have isWinner : winner ∈ failuresBefore ++ winner :: failuresBehind := by simp
  obtain ⟨leavesBefore, leavesBehind, split, less, notMore⟩ :=
    furthest_isFirstMaximum (someLeaves winner isWinner)
  refine ⟨failuresBefore.flatMap leaves ++ leavesBefore,
    leavesBehind ++ failuresBehind.flatMap leaves, ?_, ?_, ?_⟩
  · rw [List.flatMap_append, List.flatMap_cons, split]
    simp
  · intro leaf member
    rcases List.mem_append.mp member with earlierLeaf | ownLeaf
    · obtain ⟨failure, isEarlier, isLeaf⟩ := List.mem_flatMap.mp earlierLeaf
      have passed := before failure.furthest (List.mem_map_of_mem isEarlier)
      exact (within (List.mem_append_left _ isEarlier) isLeaf).trans_lt passed
    · exact less leaf ownLeaf
  · intro leaf member
    rcases List.mem_append.mp member with ownLeaf | laterLeaf
    · exact notMore leaf ownLeaf
    · obtain ⟨failure, isLater, isLeaf⟩ := List.mem_flatMap.mp laterLeaf
      have notPassed := behind failure.furthest (List.mem_map_of_mem isLater)
      exact (within (List.mem_append_right _ (.tail _ isLater)) isLeaf).trans notPassed

theorem leaves_of_cause_eq_ofFailures {failure : Failure} {causes : List Failure}
    (someCause : causes ≠ []) (same : failure.cause = Cause.ofFailures causes) :
    failure.leaves = causes.flatMap leaves := by
  rcases causes with _ | ⟨first, _ | ⟨second, others⟩⟩
  · exact absurd rfl someCause
  all_goals
    cases failure <;> simp [cause, Cause.ofFailures] at same
    simp [leaves, leavesOfAll_eq_flatMap, same]

/-- The search goes through the causes one by one. -/
theorem furthest_isFirstMaximum_of_causes {failure : Failure} {causes : List Failure}
    (someCause : causes ≠ []) (someLeaves : ∀ cause ∈ causes, cause.leaves ≠ [])
    (same : failure.cause = Cause.ofFailures causes) :
    failure.furthest.IsFirstMaximum (causes.map furthest) := by
  obtain ⟨first, others, rfl⟩ := List.exists_cons_of_ne_nil someCause
  have maximum := IsFirstMaximum.foldl_further first.furthest (others.map furthest)
  have sameLeaves := leaves_of_cause_eq_ofFailures someCause same
  have ofLeaves := IsFirstMaximum.of_map_furthest someLeaves maximum
  have someLeaf : failure.leaves ≠ [] := by
    rw [sameLeaves]
    exact List.ne_nil_of_mem ofLeaves.mem
  have searched := furthest_isFirstMaximum someLeaf
  rw [sameLeaves] at searched
  rw [searched.unique ofLeaves]
  exact maximum

/-- The failure that got furthest is the first leaf with a maximal position, or the whole failure
when there are no leaves. So it stands for itself, stays the same behind one more failure, and is
the first maximum of what got furthest behind each cause. -/
theorem furthest_is_first_maximal_leaf (failure : Failure) :
    (failure.leaves ≠ [] → failure.furthest.IsFirstMaximum failure.leaves) ∧
      (failure.leaves = [] → failure.furthest = failure) ∧
      failure.furthest.furthest = failure.furthest ∧
      (failure.leaves ≠ [] →
        ∀ outer : Failure, (outer.causedBy failure).furthest = failure.furthest) ∧
      ∀ causes, causes ≠ [] → (∀ cause ∈ causes, cause.leaves ≠ []) →
        failure.cause = Cause.ofFailures causes →
          failure.furthest.IsFirstMaximum (causes.map furthest) := by
  refine ⟨furthest_isFirstMaximum, furthest_of_leaves_eq_nil, failure.furthest_furthest, ?_, ?_⟩
  · intro someLeaf outer
    have sameLeaves : failure.leaves = (outer.causedBy failure).leaves := rfl
    exact (furthest_eq_of_leaves_eq sameLeaves someLeaf).symm
  · intro causes someCause someLeaves same
    exact furthest_isFirstMaximum_of_causes someCause someLeaves same

/-- The first of two leaves at the same position wins, although the whole failure has a greater
position. -/
theorem furthest_of_tied_leaves :
    let tied := Failure.newAt .literal "expected \"(\"" 5
    let causes := [.new .pattern "no digits", (Failure.newAt (.rule "factor") "" 7).causedBy tied,
      .newAt (.custom "end") "" 5]
    let failure := (Failure.newAt .choice "no alternative matched at index 9" 9).causedByAll causes
    failure.leaves ≠ [] ∧ failure.cause = Cause.ofFailures causes ∧ failure.furthest = tied ∧
      failure.furthest.IsFirstMaximum failure.leaves ∧
      failure.furthest.IsFirstMaximum (causes.map furthest) := by
  intro tied causes failure
  have someLeaf : failure.leaves ≠ [] := List.cons_ne_nil _ _
  have someLeaves : ∀ cause ∈ causes, cause.leaves ≠ [] := by
    simp [causes, tied, Failure.new, newAt, causedBy, withCause, ofReport, leaves]
  have law := furthest_is_first_maximal_leaf failure
  exact ⟨someLeaf, rfl, rfl, law.1 someLeaf,
    law.2.2.2.2 causes (List.cons_ne_nil _ _) someLeaves rfl⟩

end ParserCombinators.Failure
