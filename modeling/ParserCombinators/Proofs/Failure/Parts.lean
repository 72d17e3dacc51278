/-
This file goes through all failures of a tree. A property holds of every failure when it holds of
each failure whose causes have it.
-/

import ParserCombinators.Failure.Tree

namespace ParserCombinators.Failure

mutual

/-- The failure and all failures behind it, in the order of the drawing. -/
def parts : Failure → List Failure
  | .leaf report => [.leaf report]
  | .single report cause => .single report cause :: parts cause
  | .many report causes => .many report causes :: partsOfAll causes

def partsOfAll : List Failure → List Failure
  | [] => []
  | failure :: failures => parts failure ++ partsOfAll failures

end

theorem partsOfAll_eq_flatMap (failures : List Failure) :
    partsOfAll failures = failures.flatMap parts := by
  induction failures with
  | nil => rfl
  | cons failure failures inductionHypothesis =>
      rw [partsOfAll, inductionHypothesis, List.flatMap_cons]

theorem leavesOfAll_eq_flatMap (failures : List Failure) :
    leavesOfAll failures = failures.flatMap leaves := by
  induction failures with
  | nil => rfl
  | cons failure failures inductionHypothesis =>
      rw [leavesOfAll, inductionHypothesis, List.flatMap_cons]

theorem parts_eq (failure : Failure) :
    failure.parts = failure :: failure.causes.flatMap parts := by
  cases failure with
  | leaf report => rfl
  | single report cause => simp [parts, causes]
  | many report causes => rw [parts, partsOfAll_eq_flatMap, Failure.causes]

/-- A failure is the only leaf of its own tree, or the leaves are those of the causes. -/
theorem leaves_eq (failure : Failure) :
    failure.leaves = if failure.isLeaf then [failure] else failure.causes.flatMap leaves := by
  cases failure with
  | leaf report => rfl
  | single report cause => simp [leaves, causes, isLeaf]
  | many report causes => simp [leaves, leavesOfAll_eq_flatMap, Failure.causes, isLeaf]

theorem mem_parts_iff {part failure : Failure} :
    part ∈ failure.parts ↔ part = failure ∨ ∃ cause ∈ failure.causes, part ∈ cause.parts := by
  rw [parts_eq, List.mem_cons, List.mem_flatMap]

theorem self_mem_parts (failure : Failure) : failure ∈ failure.parts :=
  mem_parts_iff.mpr (.inl rfl)

theorem sizeOf_lt_of_mem_causes {cause failure : Failure} (member : cause ∈ failure.causes) :
    sizeOf cause < sizeOf failure := by
  cases failure with
  | leaf report => cases member
  | single report only =>
      rw [List.mem_singleton.mp member, single.sizeOf_spec]
      omega
  | many report causes =>
      have smaller := List.sizeOf_lt_of_mem member
      rw [many.sizeOf_spec]
      simp only [Failure.causes] at smaller
      omega

/-- Trees of failures have finite depth. -/
theorem induction_on_causes {motive : Failure → Prop}
    (step : ∀ failure, (∀ cause ∈ failure.causes, motive cause) → motive failure)
    (failure : Failure) : motive failure :=
  step failure fun cause member =>
    have := sizeOf_lt_of_mem_causes member
    induction_on_causes step cause
termination_by sizeOf failure

theorem mem_parts_of_mem_leaves {leaf failure : Failure} (member : leaf ∈ failure.leaves) :
    leaf ∈ failure.parts := by
  induction failure using induction_on_causes with
  | step failure inductionHypothesis =>
      rw [leaves_eq] at member
      split at member
      · exact mem_parts_iff.mpr (.inl (List.mem_singleton.mp member))
      · obtain ⟨cause, isCause, member⟩ := List.mem_flatMap.mp member
        exact mem_parts_iff.mpr (.inr ⟨cause, isCause, inductionHypothesis cause isCause member⟩)

/-- What is listed as a leaf has no cause. -/
theorem isLeaf_of_mem_leaves {leaf failure : Failure} (member : leaf ∈ failure.leaves) :
    leaf.isLeaf = true := by
  induction failure using induction_on_causes with
  | step failure inductionHypothesis =>
      rw [leaves_eq] at member
      split at member
      next isLeaf =>
        rw [List.mem_singleton.mp member]
        exact isLeaf
      next =>
        obtain ⟨cause, isCause, member⟩ := List.mem_flatMap.mp member
        exact inductionHypothesis cause isCause member

theorem foldl_further_mem (first : Failure) (others : List Failure) :
    others.foldl further first ∈ first :: others := by
  induction others generalizing first with
  | nil => exact List.mem_singleton_self first
  | cons other others inductionHypothesis =>
      rw [List.foldl_cons, further]
      split
      · exact .tail _ (inductionHypothesis other)
      · rcases List.mem_cons.mp (inductionHypothesis first) with same | member
        · exact List.mem_cons.mpr (.inl same)
        · exact .tail _ (.tail _ member)

/-- The failure that got furthest is one of the tree. -/
theorem furthest_mem_parts (failure : Failure) : failure.furthest ∈ failure.parts := by
  rw [furthest]
  split
  next => exact self_mem_parts failure
  next first others same =>
    apply mem_parts_of_mem_leaves
    rw [same]
    exact foldl_further_mem first others

/-- What got furthest depends on the leaves alone, as long as there are any. -/
theorem furthest_eq_of_leaves_eq {reason reason' : Failure}
    (same : reason.leaves = reason'.leaves) (some : reason.leaves ≠ []) :
    reason.furthest = reason'.furthest := by
  rw [furthest, furthest, ← same]
  split
  next none => exact absurd none some
  next first others _ => rfl

end ParserCombinators.Failure
