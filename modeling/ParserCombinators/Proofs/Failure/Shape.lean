/-
This file describes the failures that leaves and combinators build by themselves: where they lie,
which failure caused which, and how many causes a failure of each kind has.
-/

import ParserCombinators.Grammar.Calculator
import ParserCombinators.Proofs.Failure.Parts
import ParserCombinators.Proofs.GrammarSafety

namespace ParserCombinators

variable {signature : Signature} {A B : Type}

/-- These parsers may report any failure at all. -/
def Parser.ReportsAnything : Parser signature A → Prop
  | .function _ => True
  | .fail _ => True
  | .mapError _ _ => True
  | _ => False

/-- All failures that the parser reports are built by leaves and combinators. -/
def Parser.BuildsFailures (parser : Parser signature A) : Prop :=
  parser.Everywhere fun _ part => ¬ part.ReportsAnything

def Grammar.BuildsFailures (grammar : Grammar signature) : Prop :=
  ∀ rule, (grammar rule).BuildsFailures

/-- The part stands somewhere in the parser or in a rule of the grammar. -/
def Grammar.Uses (grammar : Grammar signature) (parser : Parser signature A)
    (part : Parser signature B) : Prop :=
  ∀ property : (A : Type) → Parser signature A → Prop, parser.Everywhere property →
    (∀ rule, (grammar rule).Everywhere property) → property B part

/-- What a parser and the rules are built from is used. -/
theorem Grammar.everywhere_uses (grammar : Grammar signature) (parser : Parser signature A) :
    (parser.Everywhere fun _ part => grammar.Uses parser part) ∧
      ∀ rule, (grammar rule).Everywhere fun _ part => grammar.Uses parser part := by
  let Index := {property : (A : Type) → Parser signature A → Prop //
    parser.Everywhere property ∧ ∀ rule, (grammar rule).Everywhere property}
  have used (C : Type) (part : Parser signature C)
      (holds : ∀ index : Index, index.val C part) : grammar.Uses parser part := by
    intro property everywhere rules
    exact holds ⟨property, everywhere, rules⟩
  constructor
  · exact Parser.everywhere_of_forall used fun index => index.property.1
  · intro rule
    exact Parser.everywhere_of_forall used fun index => index.property.2 rule

namespace Failure

/-- No cause, a single cause, or a list of at least two causes. -/
def HasCauses (failure : Failure) : Nat → Prop
  | 0 => failure.cause = none
  | 1 => ∃ cause, failure.cause = some (.single cause)
  | count + 2 => ∃ causes, failure.cause = some (.many causes) ∧ causes.length = count + 2

/-- The causes fit the kind. A failure of a choice is what one of the choices in use reported, and
it has as many causes as the choice has alternatives. -/
def HasShape (grammar : Grammar signature) (parser : Parser signature A) (failure : Failure) :
    Prop :=
  match failure.kind with
  | .literal => failure.HasCauses 0
  | .pattern => failure.HasCauses 0
  | .custom _ => failure.HasCauses 0
  | .manyOne => failure.HasCauses 1
  | .rule _ => failure.HasCauses 1
  | .choice => ∃ (B : Type) (count : Nat) (alternatives : Fin count → Parser signature B),
      grammar.Uses parser (.choice alternatives) ∧
        (∃ fuel cursor session final,
          grammar.outcome fuel (.choice alternatives) cursor session = .failure failure final) ∧
        failure.HasCauses count

theorem hasShape_of_choice {grammar : Grammar signature} {parser : Parser signature A}
    {failure : Failure} (isChoice : failure.kind = .choice) {count : Nat}
    {alternatives : Fin count → Parser signature B}
    (uses : grammar.Uses parser (.choice alternatives)) {fuel : Nat}
    {cursor : Cursor signature.medium} {session final : Session signature.Memory}
    (failed : grammar.outcome fuel (.choice alternatives) cursor session = .failure failure final)
    (hasCauses : failure.HasCauses count) : failure.HasShape grammar parser := by
  rw [HasShape, isChoice]
  exact ⟨B, count, alternatives, uses, ⟨fuel, cursor, session, final, failed⟩, hasCauses⟩

/-- The failure lies at a place to which a parser may move from the cursor, and its causes do not
lie before it. -/
structure WellBuilt (grammar : Grammar signature) (parser : Parser signature A)
    (cursor : Cursor signature.medium) (failure : Failure) : Prop where
  placed : ∃ position, failure.position = some position ∧
    cursor.Leads ⟨cursor.input, position⟩ ∧
      ∀ cause ∈ failure.causes, ∃ later, cause.position = some later ∧ position ≤ later
  shaped : failure.HasShape grammar parser

theorem hasCauses_causedByAll (report : Report) (causes : List Failure) :
    ((Failure.leaf report).causedByAll causes).HasCauses causes.length := by
  rcases causes with _ | ⟨first, _ | ⟨second, others⟩⟩
  · rfl
  · exact ⟨first, rfl⟩
  · exact ⟨_, rfl, rfl⟩

theorem causes_causedByAll (report : Report) (causes : List Failure) :
    ((Failure.leaf report).causedByAll causes).causes = causes := by
  rcases causes with _ | ⟨first, _ | ⟨second, others⟩⟩
  · rfl
  · rfl
  · rfl

theorem report_causedByAll (report : Report) (causes : List Failure) :
    ((Failure.leaf report).causedByAll causes).report = report := by
  rcases causes with _ | ⟨first, _ | ⟨second, others⟩⟩
  · rfl
  · rfl
  · rfl

/-- When no cause lies before the failure that it explains, nothing in the tree lies before its
root. -/
theorem position_le_of_mem_parts {failure : Failure}
    (placed : ∀ part ∈ failure.parts, ∃ position, part.position = some position ∧
      ∀ cause ∈ part.causes, ∃ later, cause.position = some later ∧ position ≤ later)
    {part : Failure} (member : part ∈ failure.parts) :
    ∃ first last, failure.position = some first ∧ part.position = some last ∧ first ≤ last := by
  induction failure using induction_on_causes with
  | step failure inductionHypothesis =>
      obtain ⟨first, known, causesLater⟩ := placed failure failure.self_mem_parts
      rcases mem_parts_iff.mp member with same | ⟨cause, isCause, member⟩
      · rw [same]
        exact ⟨first, first, known, known, Nat.le_refl first⟩
      · have behind (other : Failure) (member : other ∈ cause.parts) : other ∈ failure.parts :=
          mem_parts_iff.mpr (.inr ⟨cause, isCause, member⟩)
        obtain ⟨later, last, laterKnown, lastKnown, ordered⟩ := inductionHypothesis cause isCause
          (fun other member => placed other (behind other member)) member
        obtain ⟨later', laterKnown', before⟩ := causesLater cause isCause
        have same : later' = later := by
          rw [laterKnown', Option.some.injEq] at laterKnown
          exact laterKnown
        exact ⟨first, last, known, lastKnown, by omega⟩

end Failure

/-- The blame for failures that are well built all the way down. -/
def Grammar.builtBlame (grammar : Grammar signature) (parser : Parser signature A) :
    Blame signature.medium where
  allows cursor reason := ∀ part ∈ reason.parts, part.WellBuilt grammar parser cursor
  earlier := by
    intro cursor next reason leads built part member
    obtain ⟨position, known, leadsOn, causesLater⟩ := (built part member).placed
    have leadsOn' : cursor.Leads ⟨cursor.input, position⟩ := by
      rw [← leads.sameInput]
      exact leads.trans leadsOn
    exact ⟨⟨position, known, leadsOn', causesLater⟩, (built part member).shaped⟩

section

variable {grammar : Grammar signature} {parser : Parser signature A}

/-- A failure at the cursor is well built when its causes are and its own causes fit its kind. -/
theorem Grammar.builtBlame_allows {cursor : Cursor signature.medium} (valid : cursor.Valid)
    {reason : Failure} (here : reason.position = some cursor.index)
    (causesAllowed : ∀ cause ∈ reason.causes, (grammar.builtBlame parser).allows cursor cause)
    (shaped : reason.HasShape grammar parser) :
    (grammar.builtBlame parser).allows cursor reason := by
  intro part member
  rcases Failure.mem_parts_iff.mp member with same | ⟨cause, isCause, member⟩
  · rw [same]
    refine ⟨⟨cursor.index, here, .refl valid, ?_⟩, shaped⟩
    intro cause isCause
    have built := causesAllowed cause isCause cause cause.self_mem_parts
    obtain ⟨later, known, leads, _⟩ := built.placed
    exact ⟨later, known, leads.forward⟩
  · exact causesAllowed cause isCause part member

/-- Every part in use that builds its failures builds them well. -/
theorem Parser.reportsWithin_builtBlame {part : Parser signature B}
    (builds : ¬ part.ReportsAnything) (uses : grammar.Uses parser part) (fuel : Nat) :
    part.ReportsWithin (grammar.builtBlame parser) (grammar.call fuel) fuel := by
  cases part with
  | leaf wanted =>
      intro cursor kind message ofLeaf valid
      apply Grammar.builtBlame_allows valid rfl
      · intro cause member
        cases member
      · cases kind with
        | literal | pattern | custom name => rfl
        | choice | manyOne | rule name => cases ofLeaf
  | function run => exact absurd trivial builds
  | fail reason => exact absurd trivial builds
  | mapError convert inner => exact absurd trivial builds
  | label name inner =>
      intro cursor cause valid allowed
      refine Grammar.builtBlame_allows valid rfl ?_ ⟨cause, rfl⟩
      intro other member
      rw [List.mem_singleton.mp member]
      exact allowed
  | manyOne inner =>
      intro cursor cause valid allowed
      refine Grammar.builtBlame_allows valid rfl ?_ ⟨cause, rfl⟩
      intro other member
      rw [List.mem_singleton.mp member]
      exact allowed
  | parseAs reader inner =>
      intro cursor text valid
      exact Grammar.builtBlame_allows valid rfl nofun rfl
  | choice alternatives =>
      intro cursor session causes final valid total allowed failed
      let report : Report := ⟨.choice, "no alternative matched at index " ++ toString cursor.index,
        some cursor.index⟩
      have sameReport := Failure.report_causedByAll report causes
      apply Grammar.builtBlame_allows valid (congrArg Report.position sameReport)
      · intro cause member
        have sameCauses := Failure.causes_causedByAll report causes
        exact allowed cause (sameCauses ▸ member)
      · have hasCauses := Failure.hasCauses_causedByAll report causes
        rw [total] at hasCauses
        exact Failure.hasShape_of_choice (congrArg Report.kind sameReport) uses failed hasCauses
  | succeed | map | chain | ap | sequence | sequenceList | many | sepBy | optional | rule | fresh =>
      trivial

/-- A parser that builds its failures reports only well-built ones. -/
theorem Grammar.outcome_wellBuilt (builds : grammar.BuildsFailures)
    (parserBuilds : parser.BuildsFailures) (fuel : Nat) :
    (grammar.outcome fuel parser).Safe (grammar.builtBlame parser) (parser.Nullable grammar) := by
  obtain ⟨parserUsed, rulesUsed⟩ := grammar.everywhere_uses parser
  have reports (fuel : Nat) {C : Type} {other : Parser signature C}
      (otherBuilds : other.BuildsFailures)
      (used : other.Everywhere fun _ part => grammar.Uses parser part) :
      other.Everywhere fun _ part =>
        part.ReportsWithin (grammar.builtBlame parser) (grammar.call fuel) fuel :=
    Parser.Everywhere.imp₂ (fun _ _ buildsHere usedHere =>
      Parser.reportsWithin_builtBlame buildsHere usedHere fuel) otherBuilds used
  apply Parser.behaviour_safe_of_reportsWithin grammar
  · apply Grammar.call_safe_of_reportsWithin
    exact fun fuel rule => reports fuel (builds rule) (rulesUsed rule)
  · exact reports fuel parserBuilds parserUsed

/-- Every failure in the tree of a failed parse has a position within the input, not before the
beginning of the parse, on a boundary when the parse began on one, and its causes do not lie before
it. Kinds of leaves have no cause, a missing match and a rule have a single one, and a choice has
one for each alternative. So the failure that got furthest does not lie before the whole one. -/
theorem Grammar.failure_shape (builds : grammar.BuildsFailures)
    (parserBuilds : parser.BuildsFailures) {cursor : Cursor signature.medium}
    (valid : cursor.Valid) {fuel : Nat} {session final : Session signature.Memory}
    {reason : Failure}
    (failed : grammar.outcome fuel parser cursor session = .failure reason final) :
    (∀ part ∈ reason.parts,
      (∃ position, part.position = some position ∧ cursor.index ≤ position ∧
        position ≤ cursor.length ∧
          (cursor.OnBoundary →
            (⟨cursor.input, position⟩ : Cursor signature.medium).OnBoundary) ∧
          ∀ cause ∈ part.causes, ∃ later, cause.position = some later ∧ position ≤ later) ∧
        part.HasShape grammar parser) ∧
      ∃ first last, reason.position = some first ∧ reason.furthest.position = some last ∧
        first ≤ last := by
  have safe := Grammar.outcome_wellBuilt builds parserBuilds fuel cursor valid session
  have built := safe.of_failure failed
  constructor
  · intro part member
    obtain ⟨position, known, leads, causesLater⟩ := (built part member).placed
    exact ⟨⟨position, known, leads.forward, leads.within, leads.boundary, causesLater⟩,
      (built part member).shaped⟩
  · have placed (part : Failure) (member : part ∈ reason.parts) :
        ∃ position, part.position = some position ∧
          ∀ cause ∈ part.causes, ∃ later, cause.position = some later ∧ position ≤ later := by
      obtain ⟨position, known, _, causesLater⟩ := (built part member).placed
      exact ⟨position, known, causesLater⟩
    exact Failure.position_le_of_mem_parts placed reason.furthest_mem_parts

end

namespace Calculator

theorem grammar_buildsFailures {N : Type} (arithmetic : Arithmetic N) :
    (grammar arithmetic).BuildsFailures := by
  intro rule
  cases rule
  simp [grammar, expression, term, factor, level, operator, number, token, literal, whiteSpace,
    Parser.choiceOf, Parser.between, Parser.pair, Parser.BuildsFailures, Parser.Everywhere,
    Parser.ReportsAnything, Fin.forall_fin_succ]

/-- The beginning of the failure at an open parenthesis does not lie behind what got furthest. -/
theorem unclosed_failure_shape :
    (grammar floatArithmetic).BuildsFailures ∧ (Cursor.ofText "(").Valid ∧
      ∃ reason final,
        (grammar floatArithmetic).outcome 3 (expression floatArithmetic) (Cursor.ofText "(")
            (.initial ()) = .failure reason final ∧
          ∃ first last, reason.position = some first ∧ reason.furthest.position = some last ∧
            first ≤ last := by
  have builds := grammar_buildsFailures floatArithmetic
  have valid : (Cursor.ofText "(").Valid := ⟨Nat.zero_le _, by decide⟩
  have failure : ∃ reason final,
      (grammar floatArithmetic).outcome 3 (expression floatArithmetic) (Cursor.ofText "(")
        (.initial ()) = .failure reason final := ⟨_, _, by rfl⟩
  obtain ⟨reason, final, failed⟩ := failure
  have shape := Grammar.failure_shape builds (builds .expression) valid failed
  exact ⟨builds, valid, reason, final, failed, shape.2⟩

end Calculator

end ParserCombinators
