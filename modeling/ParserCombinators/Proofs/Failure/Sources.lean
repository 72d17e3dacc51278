/-
This file follows the first cause of a failure, the first cause of that one, and so on. Unless a
list of causes is empty, the way ends at the first leaf. Parsers make no empty lists of causes.
-/

import Mathlib.Algebra.Ring.Nat
import ParserCombinators.Proofs.ErrorHandling
import ParserCombinators.Proofs.Failure.Explanation

namespace ParserCombinators

namespace Failure

/-- Every list of causes in the tree holds at least one failure. -/
def Filled (failure : Failure) : Prop :=
  ∀ part ∈ failure.parts, part.cause ≠ some (.many [])

theorem filled_iff (failure : Failure) :
    failure.Filled ↔
      failure.cause ≠ some (.many []) ∧ ∀ cause ∈ failure.causes, cause.Filled := by
  constructor
  · intro filled
    refine ⟨filled failure failure.self_mem_parts, ?_⟩
    intro cause isCause part member
    exact filled part (mem_parts_iff.mpr (.inr ⟨cause, isCause, member⟩))
  · rintro ⟨notEmpty, causesFilled⟩ part member
    rcases mem_parts_iff.mp member with rfl | ⟨cause, isCause, member⟩
    · exact notEmpty
    · exact causesFilled cause isCause part member

theorem filled_newAt (kind : FailureKind) (message : String) (position : Nat) :
    (newAt kind message position).Filled := by
  rw [filled_iff]
  exact ⟨nofun, nofun⟩

theorem Filled.causedBy {cause : Failure} (filled : cause.Filled) (failure : Failure) :
    (failure.causedBy cause).Filled := by
  rw [filled_iff]
  exact ⟨nofun, List.forall_mem_singleton.mpr filled⟩

/-- A list of causes is made only for two failures or more. -/
theorem filled_causedByAll {failure : Failure} (filled : failure.Filled) {causes : List Failure}
    (causesFilled : ∀ cause ∈ causes, cause.Filled) : (failure.causedByAll causes).Filled := by
  rcases causes with _ | ⟨first, _ | ⟨second, others⟩⟩
  · exact filled
  · exact (causesFilled first (List.mem_singleton_self first)).causedBy failure
  · rw [filled_iff]
    exact ⟨nofun, causesFilled⟩

/-- Without causes a failure is its own leaf. -/
theorem Filled.leaves_of_causes_eq_nil {failure : Failure} (filled : failure.Filled)
    (noCause : failure.causes = []) : failure.leaves = [failure] := by
  cases failure with
  | leaf report => rfl
  | single report cause => cases noCause
  | many report causes =>
      cases noCause
      exact absurd rfl (filled _ (self_mem_parts _))

/-- With causes a failure has the leaves of its causes. -/
theorem leaves_of_causes_ne_nil {failure : Failure} (someCause : failure.causes ≠ []) :
    failure.leaves = failure.causes.flatMap leaves := by
  rw [leaves_eq, if_neg]
  cases failure with
  | leaf report => exact absurd rfl someCause
  | single report cause => exact Bool.false_ne_true
  | many report causes => exact Bool.false_ne_true

theorem sources_of_source_eq_none {failure : Failure} (last : failure.source = none) :
    failure.sources = [] := by
  cases failure with
  | leaf report => rfl
  | single report cause => cases last
  | many report causes =>
      cases causes with
      | nil => rfl
      | cons first others => cases last

theorem sources_of_source_eq_some {failure cause : Failure} (next : failure.source = some cause) :
    failure.sources = cause :: cause.sources := by
  cases failure with
  | leaf report => cases next
  | single report only =>
      cases next
      rfl
  | many report causes =>
      cases causes with
      | nil => cases next
      | cons first others =>
          cases next
          rfl

/-- One failure leads to another one when the other one is its first cause. -/
def LeadsTo (outer inner : Failure) : Prop := outer.source = some inner

/-- Each failure on the way leads to the next one, and the last one has no cause. -/
theorem isChain_sources (failure : Failure) :
    (failure :: failure.sources).IsChain LeadsTo ∧
      ∃ last, (failure :: failure.sources).getLast? = some last ∧ last.source = none := by
  induction failure using induction_on_causes with
  | step failure inductionHypothesis =>
      cases next : failure.source with
      | none =>
          rw [sources_of_source_eq_none next]
          exact ⟨.singleton failure, failure, rfl, next⟩
      | some cause =>
          obtain ⟨chain, last, same, ends⟩ :=
            inductionHypothesis cause (List.mem_of_mem_head? next)
          rw [sources_of_source_eq_some next, List.getLast?_cons_cons]
          exact ⟨.cons_cons next chain, last, same, ends⟩

/-- The way of the first causes ends at the first leaf. -/
theorem Filled.head?_leaves {failure : Failure} (filled : failure.Filled) :
    failure.leaves.head? = (failure :: failure.sources).getLast? := by
  induction failure using induction_on_causes with
  | step failure inductionHypothesis =>
      cases causes : failure.causes with
      | nil =>
          have noSource : failure.source = none := by rw [source, causes, List.head?_nil]
          rw [filled.leaves_of_causes_eq_nil causes, sources_of_source_eq_none noSource,
            List.head?_singleton, List.getLast?_singleton]
      | cons first others =>
          have isCause : first ∈ failure.causes := by simp [causes]
          have someSource : failure.source = some first := by rw [source, causes, List.head?_cons]
          have firstFilled := ((filled_iff failure).mp filled).2 first isCause
          have found := inductionHypothesis first isCause firstFilled
          obtain ⟨_, last, isLast, _⟩ := first.isChain_sources
          rw [isLast] at found
          rw [leaves_of_causes_ne_nil (List.ne_nil_of_mem isCause), causes, List.flatMap_cons,
            List.head?_append, found, sources_of_source_eq_some someSource,
            List.getLast?_cons_cons, isLast, Option.some_or]

end Failure

variable {signature : Signature} {A : Type}

/-- Where this part of a parser reports a failure of its own or converts one, the failure is
filled. -/
def Parser.PartReportsFilled : Parser signature A → Prop
  | .function run => ∀ cursor memory reason,
      (run cursor memory).1 = .failure reason → reason.Filled
  | .fail reason => reason.Filled
  | .mapError convert _ => ∀ reason, reason.Filled → (convert reason).Filled
  | _ => True

/-- No part of the parser brings in an empty list of causes. -/
def Parser.ReportsFilled (parser : Parser signature A) : Prop :=
  parser.Everywhere fun _ part => part.PartReportsFilled

def Grammar.ReportsFilled (grammar : Grammar signature) : Prop :=
  ∀ rule, (grammar rule).ReportsFilled

/-- A parse is alike itself in this sense when every failure that it reports is filled. -/
def Likeness.filled (medium : Medium) : Likeness medium := ⟨Eq, fun reason _ => reason.Filled⟩

theorem Reading.alike_filled {medium : Medium} {reading : Reading medium A}
    (filled : ∀ reason, reading = .failure reason → reason.Filled) :
    reading.Alike (.filled medium) reading := by
  cases reading with
  | success next value => exact .success rfl value
  | failure reason => exact .failure (filled reason rfl)
  | fault problem => exact .fault problem

theorem Likeness.filled_of_forall₂ {medium : Medium} {failures failures' : List Failure}
    (all : List.Forall₂ (Likeness.filled medium).failures failures failures') :
    ∀ reason ∈ failures, reason.Filled := by
  induction all with
  | nil => nofun
  | cons filled _ inductionHypothesis =>
      exact List.forall_mem_cons.mpr ⟨filled, inductionHypothesis⟩

/-- Leaves and combinators make no empty list of causes. -/
theorem Parser.behaviour_alike_filled
    {call : (rule : signature.Rule) →
      Behaviour signature.medium signature.Memory (signature.result rule)}
    (alike : ∀ rule, (call rule).Alike (.filled _) (call rule)) (fuel : Nat)
    {parser : Parser signature A} (reports : parser.ReportsFilled) :
    (parser.behaviour call fuel).Alike (.filled _) (parser.behaviour call fuel) := by
  induction parser with
  | leaf wanted =>
      apply Behaviour.Alike.leaf
      rintro cursor _ rfl
      apply Reading.alike_filled
      intro reason failed
      obtain ⟨kind, message, rfl⟩ := wanted.eq_newAt_of_read failed
      exact Failure.filled_newAt kind message cursor.index
  | function run =>
      apply Behaviour.Alike.function
      rintro cursor _ rfl memory
      exact ⟨Reading.alike_filled (reports cursor memory), rfl⟩
  | succeed value => exact .succeed value
  | fail reason => exact .fail reports
  | map convert parser alike => exact (alike reports.2).map convert
  | chain parser next alike nextAlike =>
      exact (alike reports.2.1).chain fun value => nextAlike value (reports.2.2 value)
  | ap applied argument alike argumentAlike =>
      exact (alike reports.2.1).ap (argumentAlike reports.2.2)
  | mapError convert parser alike =>
      exact (alike reports.2).mapError fun reason _ filled => reports.1 reason filled
  | label name parser alike =>
      exact (alike reports.2).label fun _ _ _ _ _ filled => filled.causedBy _
  | parseAs reader parser alike =>
      exact (alike reports.2).parseAs fun _ _ _ _ => Failure.filled_newAt _ _ _
  | sequence parts alike =>
      exact (Behaviour.Alike.tuple fun part => alike part (reports.2 part)).announce _ _
  | sequenceList parts alike =>
      exact (Behaviour.Alike.row fun part => alike part (reports.2 part)).announce _ _
  | choice alternatives alike =>
      have attempted := Behaviour.Alike.attempt (fun index => alike index (reports.2 index))
        (fun _ _ _ _ _ all => Failure.filled_causedByAll (Failure.filled_newAt _ _ _)
          (Likeness.filled_of_forall₂ all)) .nil
      exact attempted.announce _ _
  | many parser alike => exact (alike reports.2).many fuel
  | manyOne parser alike =>
      exact (alike reports.2).manyOne fuel fun _ _ _ _ _ filled => filled.causedBy _
  | sepBy separator item alike itemAlike =>
      exact (alike reports.2.1).sepBy (itemAlike reports.2.2) fuel
  | optional parser alike => exact (alike reports.2).optional
  | rule name => exact (alike name).announce _ _
  | fresh memory parser alike => exact (alike reports.2).fresh memory

theorem Grammar.call_alike_filled {grammar : Grammar signature} (reports : grammar.ReportsFilled)
    (fuel : Nat) (rule : signature.Rule) :
    (grammar.call fuel rule).Alike (.filled _) (grammar.call fuel rule) := by
  induction fuel generalizing rule with
  | zero => exact fun _ _ _ _ _ _ => .unfinished
  | succ fuel inductionHypothesis =>
      exact Parser.behaviour_alike_filled inductionHypothesis fuel (reports rule)

/-- Failures of a parse are filled when the parser brings in no empty list of causes. -/
theorem Grammar.filled_of_failure {grammar : Grammar signature} (reports : grammar.ReportsFilled)
    {parser : Parser signature A} (parserReports : parser.ReportsFilled) {fuel : Nat}
    {cursor : Cursor signature.medium} {session final : Session signature.Memory}
    {reason : Failure}
    (failed : grammar.outcome fuel parser cursor session = .failure reason final) :
    reason.Filled := by
  have alike := Parser.behaviour_alike_filled (grammar.call_alike_filled reports fuel) fuel
    parserReports cursor cursor rfl session session rfl
  change (grammar.outcome fuel parser cursor session).Alike _
    (grammar.outcome fuel parser cursor session) at alike
  rw [failed] at alike
  cases alike with
  | failure filled _ => exact filled

/-- When no list of causes is empty, the sources end at the first leaf, all leaves are without
causes, and each cause adds its own. This holds of every failure of a parser that brings in no
empty list of causes. -/
theorem Failure.sources_end_at_first_leaf :
    (∀ failure : Failure, failure.Filled →
      (failure :: failure.sources).IsChain LeadsTo ∧
        (∃ last, (failure :: failure.sources).getLast? = some last ∧ last.source = none ∧
          failure.leaves.head? = some last) ∧
        failure.leaves ≠ [] ∧ (∀ leaf ∈ failure.leaves, leaf.isLeaf = true) ∧
        (failure.causes = [] → failure.leaves.length = 1) ∧
        (failure.causes ≠ [] →
          failure.leaves.length = (failure.causes.map fun cause => cause.leaves.length).sum)) ∧
      ∀ {signature : Signature} {A : Type} (grammar : Grammar signature)
        (parser : Parser signature A), grammar.ReportsFilled → parser.ReportsFilled →
          ∀ fuel cursor session reason final,
            grammar.outcome fuel parser cursor session = .failure reason final →
              reason.Filled := by
  constructor
  · intro failure filled
    obtain ⟨chain, last, isLast, ends⟩ := failure.isChain_sources
    have first : failure.leaves.head? = some last := by rw [filled.head?_leaves, isLast]
    refine ⟨chain, ⟨last, isLast, ends, first⟩, ?_, ?_, ?_, ?_⟩
    · exact List.ne_nil_of_mem (List.mem_of_mem_head? first)
    · intro leaf member
      exact isLeaf_of_mem_leaves member
    · intro noCause
      rw [filled.leaves_of_causes_eq_nil noCause, List.length_singleton]
    · intro someCause
      rw [leaves_of_causes_ne_nil someCause, List.length_flatMap]
  · intro signature A grammar parser reports parserReports fuel cursor session reason final failed
    exact Grammar.filled_of_failure reports parserReports failed

/-- Behind an empty list of causes there is no leaf. -/
example (report : Report) : (Failure.many report []).leaves = [] := rfl

namespace Calculator

theorem grammar_reportsFilled {N : Type} (arithmetic : Arithmetic N) :
    (grammar arithmetic).ReportsFilled := by
  intro rule
  cases rule
  simp [grammar, expression, term, factor, level, operator, number, token, literal, whiteSpace,
    Parser.choiceOf, Parser.between, Parser.pair, Parser.ReportsFilled, Parser.Everywhere,
    Parser.PartReportsFilled, Fin.forall_fin_succ]

/-- The sources of the failure at an open parenthesis end at the first leaf. -/
theorem unclosed_sources_end_at_first_leaf :
    (grammar floatArithmetic).ReportsFilled ∧
      ∃ reason final,
        (grammar floatArithmetic).outcome 3 (expression floatArithmetic) (Cursor.ofText "(")
            (.initial ()) = .failure reason final ∧
          reason.Filled ∧ reason.sources.length = 2 ∧
          (reason :: reason.sources).getLast? = reason.leaves.head? := by
  have reports := grammar_reportsFilled floatArithmetic
  have failure : ∃ reason final,
      (grammar floatArithmetic).outcome 3 (expression floatArithmetic) (Cursor.ofText "(")
        (.initial ()) = .failure reason final ∧ reason.sources.length = 2 := ⟨_, _, by rfl, by rfl⟩
  obtain ⟨reason, final, failed, steps⟩ := failure
  have filled := Failure.sources_end_at_first_leaf.2 _ _ reports (reports .expression) _ _ _ _ _
    failed
  obtain ⟨last, isLast, _, first⟩ := (Failure.sources_end_at_first_leaf.1 reason filled).2.1
  exact ⟨reports, reason, final, failed, filled, steps, isLast.trans first.symm⟩

end Calculator

end ParserCombinators
