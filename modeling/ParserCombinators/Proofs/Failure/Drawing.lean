/-
This file reads the drawing of a failure. Each line shows the depth and the headline of one failure
of the tree, and so the drawing determines the tree of headlines.
-/

import Mathlib.Data.List.Forall2
import ParserCombinators.Proofs.Failure.Parts

namespace ParserCombinators.Failure

open Text

/-- The marks in front of a headline at this depth. -/
def indentation : Nat → List Char
  | 0 => []
  | depth + 1 => (List.replicate depth passMark).flatten ++ branchMark

theorem not_mem_flatten_passMarks {character : Char} (different : character ∉ passMark)
    (depth : Nat) : character ∉ (List.replicate depth passMark).flatten := by
  intro member
  obtain ⟨mark, isMark, member⟩ := List.mem_flatten.mp member
  rw [List.eq_of_mem_replicate isMark] at member
  exact different member

/-- The marks one step deeper in the tree. The only mark of a branch is the last one, so replacing
all of them replaces that one. -/
theorem deeper_indentation (depth : Nat) :
    deeper (indentation depth) = indentation (depth + 1) := by
  cases depth with
  | zero => rfl
  | succ depth =>
      have noBranch : '└' ∉ (List.replicate depth passMark).flatten :=
        not_mem_flatten_passMarks (by decide) depth
      have last : replaceAll branchMark passMark branchMark = passMark := by decide
      rw [deeper, indentation, branchMark, replaceAll_append_of_not_mem noBranch, ← branchMark,
        last, indentation, List.replicate_succ', List.flatten_append, List.flatten_singleton]

mutual

/-- All failures of the tree with their depths, where a failure stands before its causes. -/
def outline (depth : Nat) : Failure → List (Nat × Failure)
  | .leaf report => [(depth, .leaf report)]
  | .single report cause => (depth, .single report cause) :: outline (depth + 1) cause
  | .many report causes => (depth, .many report causes) :: outlineOfAll (depth + 1) causes

def outlineOfAll (depth : Nat) : List Failure → List (Nat × Failure)
  | [] => []
  | failure :: failures => outline depth failure ++ outlineOfAll depth failures

end

theorem outlineOfAll_eq_flatMap (depth : Nat) (failures : List Failure) :
    outlineOfAll depth failures = failures.flatMap (outline depth) := by
  induction failures with
  | nil => rfl
  | cons failure failures inductionHypothesis =>
      rw [outlineOfAll, inductionHypothesis, List.flatMap_cons]

theorem outline_eq (depth : Nat) (failure : Failure) :
    failure.outline depth = (depth, failure) :: failure.causes.flatMap (outline (depth + 1)) := by
  cases failure with
  | leaf report => rfl
  | single report cause => simp [outline, causes]
  | many report causes => rw [outline, outlineOfAll_eq_flatMap, Failure.causes]

/-- The outline lists every failure of the tree once. -/
theorem map_snd_outline (depth : Nat) (failure : Failure) :
    (failure.outline depth).map Prod.snd = failure.parts := by
  induction failure using induction_on_causes generalizing depth with
  | step failure inductionHypothesis =>
      rw [outline_eq, parts_eq, List.map_cons, List.map_flatMap]
      exact congrArg (failure :: ·)
        (List.flatMap_congr fun cause isCause => inductionHypothesis cause isCause (depth + 1))

theorem treeLinesOfAll_eq_flatMap (indent : List Char) (failures : List Failure) :
    treeLinesOfAll indent failures = failures.flatMap (treeLines indent) := by
  induction failures with
  | nil => rfl
  | cons failure failures inductionHypothesis =>
      rw [treeLinesOfAll, inductionHypothesis, List.flatMap_cons]

theorem treeLines_eq (indent : List Char) (failure : Failure) :
    failure.treeLines indent =
      (String.ofList indent ++ failure.headline) ::
        failure.causes.flatMap (treeLines (deeper indent)) := by
  cases failure with
  | leaf report => rfl
  | single report cause => simp [treeLines, causes, headline, Failure.report]
  | many report causes =>
      rw [treeLines, treeLinesOfAll_eq_flatMap, Failure.causes, headline, Failure.report]

/-- A line shows the depth of a failure by its marks and then the headline. -/
def lineAt (entry : Nat × Failure) : String :=
  String.ofList (indentation entry.1) ++ entry.2.headline

/-- The lines follow the outline. -/
theorem treeLines_indentation (depth : Nat) (failure : Failure) :
    failure.treeLines (indentation depth) = (failure.outline depth).map lineAt := by
  induction failure using induction_on_causes generalizing depth with
  | step failure inductionHypothesis =>
      rw [treeLines_eq, outline_eq, deeper_indentation, List.map_cons, List.map_flatMap]
      exact congrArg (lineAt (depth, failure) :: ·)
        (List.flatMap_congr fun cause isCause => inductionHypothesis cause isCause (depth + 1))

/-- The depth and the headline that a line below the first one shows. -/
def readLine : List Char → Option (Nat × List Char)
  | '|' :: ' ' :: ' ' :: line => (readLine line).map fun (depth, headline) => (depth + 1, headline)
  | '└' :: '─' :: '─' :: headline => some (1, headline)
  | _ => none

/-- Whatever the headline holds, its line is read in one way. -/
theorem readLine_indentation (depth : Nat) (headline : List Char) :
    readLine (indentation (depth + 1) ++ headline) = some (depth + 1, headline) := by
  induction depth with
  | zero => rfl
  | succ depth inductionHypothesis =>
      rw [indentation, List.append_assoc] at inductionHypothesis ⊢
      rw [List.replicate_succ, List.flatten_cons, List.append_assoc]
      change (readLine ((List.replicate depth passMark).flatten ++ (branchMark ++ headline))).map _
        = some (depth + 1 + 1, headline)
      rw [inductionHypothesis, Option.map_some]

/-- The headlines of the tree with their depths, in the order of the drawing. -/
def headlines (depth : Nat) (failure : Failure) : List (Nat × List Char) :=
  (failure.outline depth).map fun entry => (entry.1, entry.2.headline.toList)

theorem headlines_eq (depth : Nat) (failure : Failure) :
    failure.headlines depth =
      (depth, failure.headline.toList) :: failure.causes.flatMap (headlines (depth + 1)) := by
  rw [headlines, outline_eq, List.map_cons, List.map_flatMap]
  rfl

/-- All lines below the first one are read. -/
theorem filterMap_readLine (depth : Nat) (failure : Failure) :
    ((failure.treeLines (indentation (depth + 1))).map String.toList).filterMap readLine =
      failure.headlines (depth + 1) := by
  induction failure using induction_on_causes generalizing depth with
  | step failure inductionHypothesis =>
      have first : readLine (String.ofList (indentation (depth + 1)) ++ failure.headline).toList =
          some (depth + 1, failure.headline.toList) := by
        rw [String.toList_append, String.toList_ofList, readLine_indentation]
      rw [treeLines_eq, headlines_eq, deeper_indentation, List.map_cons,
        List.filterMap_cons_some first, List.map_flatMap, List.filterMap_flatMap]
      exact congrArg ((depth + 1, failure.headline.toList) :: ·)
        (List.flatMap_congr fun cause isCause => inductionHypothesis cause isCause (depth + 1))

/-- Both trees have the same headline at the root, as many causes, and the same headlines in the
trees of the causes, one by one. -/
inductive SameHeadlines : Failure → Failure → Prop
  | node {first second : Failure} (headline : first.headline = second.headline)
      (causes : List.Forall₂ SameHeadlines first.causes second.causes) :
      SameHeadlines first second

/-- The rest of a list of headlines begins no deeper than this, or there is no rest. -/
def ReturnsTo (depth : Nat) (rest : List (Nat × List Char)) : Prop :=
  ∀ entry ∈ rest.head?, entry.1 ≤ depth

/-- A list of headlines that begins with those of the failure begins with those of no other tree. -/
def IsReadFirst (failure : Failure) : Prop :=
  ∀ {other : Failure} {depth : Nat} {rest rest' : List (Nat × List Char)},
    ReturnsTo depth rest → ReturnsTo depth rest' →
      failure.headlines depth ++ rest = other.headlines depth ++ rest' →
        failure.SameHeadlines other ∧ rest = rest'

theorem returnsTo_flatMap_headlines {depth : Nat} {rest : List (Nat × List Char)}
    (returns : ReturnsTo depth rest) (failures : List Failure) :
    ReturnsTo (depth + 1) (failures.flatMap (headlines (depth + 1)) ++ rest) := by
  cases failures with
  | nil => exact fun entry member => Nat.le_succ_of_le (returns entry member)
  | cons failure failures =>
      intro entry member
      rw [List.flatMap_cons, headlines_eq] at member
      cases member
      exact Nat.le_refl _

/-- Deeper headlines are not mistaken for the rest. -/
theorem headlines_append_ne {depth : Nat} {rest : List (Nat × List Char)}
    (returns : ReturnsTo depth rest) (failure : Failure) (more : List (Nat × List Char)) :
    failure.headlines (depth + 1) ++ more ≠ rest := by
  rintro rfl
  rw [headlines_eq] at returns
  exact Nat.lt_irrefl depth (returns _ rfl)

/-- Trees that are read first one by one are read one after another. -/
theorem forall₂_sameHeadlines {causes causes' : List Failure}
    (readFirst : ∀ cause ∈ causes, cause.IsReadFirst) {depth : Nat}
    {rest rest' : List (Nat × List Char)} (returns : ReturnsTo depth rest)
    (returns' : ReturnsTo depth rest')
    (same : causes.flatMap (headlines (depth + 1)) ++ rest =
      causes'.flatMap (headlines (depth + 1)) ++ rest') :
    List.Forall₂ SameHeadlines causes causes' ∧ rest = rest' := by
  induction causes generalizing causes' with
  | nil =>
      cases causes' with
      | nil => exact ⟨.nil, same⟩
      | cons first' others' =>
          rw [List.flatMap_cons, List.append_assoc] at same
          exact absurd same.symm (headlines_append_ne returns first' _)
  | cons first others inductionHypothesis =>
      obtain ⟨firstRead, othersRead⟩ := List.forall_mem_cons.mp readFirst
      rw [List.flatMap_cons, List.append_assoc] at same
      cases causes' with
      | nil => exact absurd same (headlines_append_ne returns' first _)
      | cons first' others' =>
          rw [List.flatMap_cons, List.append_assoc] at same
          obtain ⟨sameFirst, sameOthers⟩ := firstRead
            (returnsTo_flatMap_headlines returns others)
            (returnsTo_flatMap_headlines returns' others') same
          obtain ⟨all, sameRest⟩ := inductionHypothesis othersRead sameOthers
          exact ⟨.cons sameFirst all, sameRest⟩

theorem isReadFirst (failure : Failure) : failure.IsReadFirst := by
  induction failure using induction_on_causes with
  | step failure inductionHypothesis =>
      intro other depth rest rest' returns returns' same
      rw [headlines_eq, headlines_eq, List.cons_append, List.cons_append, List.cons.injEq,
        Prod.mk.injEq, String.toList_inj] at same
      obtain ⟨⟨_, headline⟩, same⟩ := same
      obtain ⟨all, sameRest⟩ := forall₂_sameHeadlines inductionHypothesis returns returns' same
      exact ⟨.node headline all, sameRest⟩

/-- No line breaks when no headline does. -/
theorem not_mem_treeLines {failure : Failure}
    (unbroken : ∀ part ∈ failure.parts, '\n' ∉ part.headline.toList) :
    ∀ line ∈ (failure.treeLines []).map String.toList, '\n' ∉ line := by
  intro line member
  change line ∈ (failure.treeLines (indentation 0)).map String.toList at member
  rw [treeLines_indentation, List.map_map] at member
  obtain ⟨⟨depth, part⟩, listed, rfl⟩ := List.mem_map.mp member
  have isPart : part ∈ failure.parts := by
    rw [← failure.map_snd_outline 0]
    exact List.mem_map_of_mem listed
  have noBreak : '\n' ∉ indentation depth := by
    cases depth with
    | zero => exact List.not_mem_nil
    | succ depth =>
        rw [indentation, List.mem_append, not_or]
        exact ⟨not_mem_flatten_passMarks (by decide) depth, by decide⟩
  rw [Function.comp, lineAt, String.toList_append, String.toList_ofList, List.mem_append, not_or]
  exact ⟨noBreak, unbroken part isPart⟩

/-- The lines can be told apart in the drawing. -/
theorem splitOn_drawing {failure : Failure}
    (unbroken : ∀ part ∈ failure.parts, '\n' ∉ part.headline.toList) :
    failure.drawing.toList.splitOn '\n' = (failure.treeLines []).map String.toList := by
  have someLine : (failure.treeLines []).map String.toList ≠ [] := by
    rw [treeLines_eq]
    exact List.cons_ne_nil _ _
  rw [drawing, String.toList_intercalate]
  exact List.splitOn_intercalate '\n' (not_mem_treeLines unbroken) someLine

/-- Failures whose lines agree have the same tree of headlines. -/
theorem sameHeadlines_of_treeLines {first second : Failure}
    (same : (first.treeLines []).map String.toList = (second.treeLines []).map String.toList) :
    first.SameHeadlines second := by
  have below (failure : Failure) :
      ((failure.treeLines []).map String.toList).tail.filterMap readLine =
        failure.causes.flatMap (headlines 1) := by
    rw [treeLines_eq, List.map_cons, List.tail_cons, List.map_flatMap, List.filterMap_flatMap]
    exact List.flatMap_congr fun cause _ => filterMap_readLine 0 cause
  have causes := congrArg (fun lines => lines.tail.filterMap readLine) same
  rw [treeLines_eq, treeLines_eq] at same
  have headline : first.headline = second.headline := by
    simpa [String.toList_inj] using (List.cons.inj same).1
  simp only [below] at causes
  have noRest : ReturnsTo 0 [] := nofun
  obtain ⟨all, _⟩ := forall₂_sameHeadlines (fun cause _ => cause.isReadFirst) noRest noRest
    (congrArg (· ++ []) causes)
  exact .node headline all

/-- The lines of a drawing are the headlines of all failures of the tree behind the marks for their
depths, a failure before its causes. So when no headline breaks its line, the drawing determines the
tree of headlines. -/
theorem drawing_determines_headlines :
    (∀ failure : Failure, (failure.outline 0).map Prod.snd = failure.parts ∧
      failure.treeLines [] = (failure.outline 0).map lineAt) ∧
      ∀ first second : Failure, (∀ part ∈ first.parts, '\n' ∉ part.headline.toList) →
        (∀ part ∈ second.parts, '\n' ∉ part.headline.toList) →
          first.drawing = second.drawing → first.SameHeadlines second := by
  constructor
  · intro failure
    exact ⟨failure.map_snd_outline 0, failure.treeLines_indentation 0⟩
  · intro first second unbroken unbroken' same
    apply sameHeadlines_of_treeLines
    rw [← splitOn_drawing unbroken, ← splitOn_drawing unbroken', same]

/-- A message may hold the marks of a drawing. Whether a cause is single or the only one of a list
is not drawn. -/
theorem drawing_of_marked_messages :
    let cause := Failure.new .literal "|  └──pattern: no match"
    let first := (Failure.new .choice "└──literal: none").causedBy cause
    let second := (Failure.new .choice "└──literal: none").withCause (.many [cause])
    (∀ part ∈ first.parts, '\n' ∉ part.headline.toList) ∧
      (∀ part ∈ second.parts, '\n' ∉ part.headline.toList) ∧
      first.drawing = second.drawing ∧ first.SameHeadlines second := by
  intro cause first second
  have unbroken : ∀ part ∈ first.parts, '\n' ∉ part.headline.toList := by
    simp [first, cause, Failure.new, causedBy, withCause, ofReport, parts, headline,
      Failure.report, Report.headline, FailureKind.name]
  have unbroken' : ∀ part ∈ second.parts, '\n' ∉ part.headline.toList := by
    simp [second, cause, Failure.new, withCause, ofReport, parts, partsOfAll, headline,
      Failure.report, Report.headline, FailureKind.name]
  have same : first.drawing = second.drawing := rfl
  have alike := drawing_determines_headlines.2 first second unbroken unbroken' same
  exact ⟨unbroken, unbroken', same, alike⟩

end ParserCombinators.Failure
