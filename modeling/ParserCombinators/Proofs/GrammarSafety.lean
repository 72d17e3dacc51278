/-
This file shows that every parser over every grammar is safe, as long as the plain functions in it
keep the law.
-/

import ParserCombinators.Grammar.BracketTree
import ParserCombinators.Proofs.Safety

namespace ParserCombinators

variable {signature : Signature}

/-- Where a plain function stands, it keeps the law. -/
def Parser.FunctionKeepsLaw {A : Type} : Parser signature A → Prop
  | .function run => LawfulFunction run
  | _ => True

/-- Every plain function in the parser keeps the law. -/
def Parser.Lawful {A : Type} (parser : Parser signature A) : Prop :=
  parser.Everywhere fun _ part => part.FunctionKeepsLaw

def Grammar.Lawful (grammar : Grammar signature) : Prop := ∀ rule, (grammar rule).Lawful

section

variable {call : (rule : signature.Rule) →
    Behaviour signature.medium signature.Memory (signature.result rule)} {fuel : Nat}

/-- The blame allows what this part of a parser reports, as far as it allows what the parts of the
part report. -/
def Parser.ReportsWithin (blame : Blame signature.medium)
    (call : (rule : signature.Rule) →
      Behaviour signature.medium signature.Memory (signature.result rule))
    (fuel : Nat) {A : Type} : Parser signature A → Prop
  | .leaf _ => ∀ cursor kind message, kind.ofLeaf = true → cursor.Valid →
      blame.allows cursor (.newAt kind message cursor.index)
  | .function run => (Behaviour.function run).Safe blame (FunctionMayStay run)
  | .fail reason => ∀ cursor, blame.allows cursor reason
  | .mapError convert _ => ∀ cursor reason, blame.allows cursor reason →
      blame.allows cursor (convert reason)
  | .label name _ => ∀ cursor cause, cursor.Valid → blame.allows cursor cause →
      blame.allows cursor (Behaviour.ruleFailure name cursor.index cause)
  | .parseAs reader _ => ∀ cursor text, cursor.Valid →
      blame.allows cursor (Behaviour.readerFailure reader.name text cursor.index)
  | @Parser.choice _ _ count alternatives => ∀ cursor session causes final, cursor.Valid →
      causes.length = count → (∀ cause ∈ causes, blame.allows cursor cause) →
        (Parser.choice alternatives).behaviour call fuel cursor session =
          .failure (Behaviour.choiceFailure cursor.index causes) final →
        blame.allows cursor (Behaviour.choiceFailure cursor.index causes)
  | .manyOne _ => ∀ cursor cause, cursor.Valid → blame.allows cursor cause →
      blame.allows cursor (Behaviour.manyOneFailure cursor.index cause)
  | _ => True

/-- When the rules are safe and the blame allows what each part reports, every parser is safe, and
it stays only if it is nullable. -/
theorem Parser.behaviour_safe_of_reportsWithin (grammar : Grammar signature)
    {blame : Blame signature.medium}
    (callSafe : ∀ rule, (call rule).Safe blame ((grammar rule).Nullable grammar))
    {A : Type} {parser : Parser signature A}
    (reports : parser.Everywhere fun _ part => part.ReportsWithin blame call fuel) :
    (parser.behaviour call fuel).Safe blame (parser.Nullable grammar) := by
  induction parser with
  | leaf wanted => exact (Behaviour.Safe.leaf wanted reports).imp .leaf
  | function run => exact Behaviour.Safe.imp reports .function
  | succeed value => exact (Behaviour.Safe.succeed value).imp fun _ => .succeed value
  | fail reason => exact (Behaviour.Safe.fail reports).imp False.elim
  | map convert parser safe => exact ((safe reports.2).map convert).imp (.map convert)
  | chain parser next safe nextSafe =>
      refine ((safe reports.2.1).chain fun value => nextSafe value (reports.2.2 value)).imp ?_
      rintro ⟨nullable, value, nextNullable⟩
      exact .chain nullable nextNullable
  | ap applied argument safe argumentSafe =>
      refine ((safe reports.2.1).ap (argumentSafe reports.2.2)).imp ?_
      rintro ⟨nullable, argumentNullable⟩
      exact .ap nullable argumentNullable
  | mapError convert parser safe =>
      exact ((safe reports.2).mapError reports.1).imp (.mapError convert)
  | label name parser safe => exact ((safe reports.2).label reports.1).imp (.label name)
  | parseAs reader parser safe => exact ((safe reports.2).parseAs reports.1).imp (.parseAs reader)
  | sequence parts safe =>
      have parted := Behaviour.Safe.tuple fun part => safe part (reports.2 part)
      exact (parted.announce _).imp .sequence
  | sequenceList parts safe =>
      have parted := Behaviour.Safe.row fun part => safe part (reports.2 part)
      exact (parted.announce _).imp .sequenceList
  | choice alternatives safe =>
      have chosen := Behaviour.Safe.choice (fun index => safe index (reports.2 index)) reports.1
      exact chosen.imp fun ⟨_, nullable⟩ => .choice nullable
  | many parser safe => exact ((safe reports.2).many fuel).imp fun _ => .many parser
  | manyOne parser safe => exact ((safe reports.2).manyOne fuel reports.1).imp .manyOne
  | sepBy separator item safe itemSafe =>
      exact ((safe reports.2.1).sepBy (itemSafe reports.2.2) fuel).imp fun _ =>
        .sepBy separator item
  | optional parser safe => exact (safe reports.2).optional.imp fun _ => .optional parser
  | rule name => exact ((callSafe name).announce _).imp .rule
  | fresh memory parser safe => exact (safe reports.2).fresh.imp (.fresh memory)

/-- What any part reports is allowed when nothing is forbidden. -/
theorem Parser.Lawful.reportsWithin {A : Type} {parser : Parser signature A}
    (lawful : parser.Lawful) :
    parser.Everywhere fun _ part => part.ReportsWithin .any call fuel := by
  refine lawful.imp fun B part keepsLaw => ?_
  cases part with
  | function run => exact Behaviour.Safe.function keepsLaw
  | _ => simp [ReportsWithin, Blame.any]

end

/-- When the rules are safe, every parser is, and it stays only if it is nullable. -/
theorem Parser.behaviour_safe (grammar : Grammar signature)
    {call : (rule : signature.Rule) →
      Behaviour signature.medium signature.Memory (signature.result rule)}
    (callSafe : ∀ rule, (call rule).Safe .any ((grammar rule).Nullable grammar)) (fuel : Nat)
    {A : Type} {parser : Parser signature A} (lawful : parser.Lawful) :
    (parser.behaviour call fuel).Safe .any (parser.Nullable grammar) :=
  Parser.behaviour_safe_of_reportsWithin grammar callSafe lawful.reportsWithin

/-- Rules are safe however much fuel there is. -/
theorem Grammar.call_safe_of_reportsWithin {grammar : Grammar signature}
    {blame : Blame signature.medium}
    (reports : ∀ fuel rule, (grammar rule).Everywhere fun _ part =>
      part.ReportsWithin blame (grammar.call fuel) fuel)
    (fuel : Nat) (rule : signature.Rule) :
    (grammar.call fuel rule).Safe blame ((grammar rule).Nullable grammar) := by
  induction fuel generalizing rule with
  | zero =>
      intro cursor _ session
      trivial
  | succ fuel inductionHypothesis =>
      exact Parser.behaviour_safe_of_reportsWithin grammar inductionHypothesis (reports fuel rule)

theorem Grammar.call_safe {grammar : Grammar signature} (lawful : grammar.Lawful) (fuel : Nat)
    (rule : signature.Rule) :
    (grammar.call fuel rule).Safe .any ((grammar rule).Nullable grammar) :=
  Grammar.call_safe_of_reportsWithin (fun _ rule => (lawful rule).reportsWithin) fuel rule

theorem Grammar.outcome_safe {grammar : Grammar signature} (lawful : grammar.Lawful) {A : Type}
    {parser : Parser signature A} (parserLawful : parser.Lawful) (fuel : Nat) :
    (grammar.outcome fuel parser).Safe .any (parser.Nullable grammar) :=
  Parser.behaviour_safe grammar (Grammar.call_safe lawful fuel) fuel parserLawful

/-- No step of a parse is a fault. A successful parse stays in its input and does not go back. From
a boundary it comes to a boundary, where the rest is what is left of the input, and from inside an
element it does not move at all. -/
theorem Grammar.outcome_within_input {grammar : Grammar signature} (lawful : grammar.Lawful)
    {A : Type} {parser : Parser signature A} (parserLawful : parser.Lawful)
    {cursor : Cursor signature.medium} (valid : cursor.Valid) (fuel : Nat)
    (session : Session signature.Memory) :
    (∀ problem, grammar.outcome fuel parser cursor session ≠ .fault problem) ∧
      ∀ next value final, grammar.outcome fuel parser cursor session = .success next value final →
        next.input = cursor.input ∧ cursor.index ≤ next.index ∧ next.index ≤ cursor.length ∧
          (cursor.OnBoundary →
            (∃ first, cursor.input = first ++ next.rest ∧
              signature.medium.measure first = next.index) ∧
            (next.rest = [] ↔ next.isEnd = true)) ∧
          (¬ cursor.OnBoundary → next.index = cursor.index) := by
  have safe := Grammar.outcome_safe lawful parserLawful fuel cursor valid session
  refine ⟨safe.ne_fault, ?_⟩
  intro next value final success
  obtain ⟨leads, _⟩ := safe.of_success success
  have within : next.index ≤ cursor.length := by
    rw [Cursor.length, ← leads.sameInput]
    exact leads.within
  refine ⟨leads.sameInput, leads.forward, within, ?_, leads.stays⟩
  intro boundary
  have nextBoundary := leads.boundary boundary
  obtain ⟨first, same, total⟩ := nextBoundary.split
  exact ⟨⟨first, leads.sameInput ▸ same, total⟩, nextBoundary.rest_eq_nil_iff⟩

/-- The law holds of the grammar of brackets, which has no plain functions. -/
theorem BracketTree.grammar_lawful : BracketTree.grammar.Lawful := by
  intro rule
  cases rule
  simp [BracketTree.grammar, BracketTree.node, BracketTree.bracket, Parser.between, Parser.Lawful,
    Parser.Everywhere, Parser.FunctionKeepsLaw, Fin.forall_fin_succ]

theorem BracketTree.nested_brackets_within_input :
    BracketTree.grammar.Lawful ∧ (Cursor.ofText "[[]]").Valid ∧
      ∃ final, BracketTree.countNodes "[[]]" = .success ⟨"[[]]".toList, 4⟩ 2 final ∧
        4 ≤ (Cursor.ofText "[[]]").length := by
  have valid : (Cursor.ofText "[[]]").Valid := ⟨Nat.zero_le _, by decide⟩
  have law := Grammar.outcome_within_input BracketTree.grammar_lawful
    (BracketTree.grammar_lawful .node) valid 6 (.initial ())
  have success : ∃ final, BracketTree.countNodes "[[]]" = .success ⟨"[[]]".toList, 4⟩ 2 final :=
    ⟨_, by rfl⟩
  obtain ⟨final, same⟩ := success
  exact ⟨BracketTree.grammar_lawful, valid, final, same, (law.2 _ _ _ same).2.2.1⟩

end ParserCombinators
