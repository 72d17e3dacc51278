/-
This file removes labels and conversions of failures from parsers, and shows that the parsers
succeed, fail and diverge as before.
-/

import ParserCombinators.Proofs.Ending

namespace ParserCombinators

variable {signature : Signature}

/-- The parser without labels and conversions of failures, at every depth. -/
def Parser.bare : {A : Type} → Parser signature A → Parser signature A
  | _, .leaf wanted => .leaf wanted
  | _, .function run => .function run
  | _, .succeed value => .succeed value
  | _, .fail reason => .fail reason
  | _, .map convert parser => .map convert parser.bare
  | _, .chain parser next => .chain parser.bare fun value => (next value).bare
  | _, .ap applied argument => .ap applied.bare argument.bare
  | _, .mapError _ parser => parser.bare
  | _, .label _ parser => parser.bare
  | _, .parseAs reader parser => .parseAs reader parser.bare
  | _, .sequence parts => .sequence fun part => (parts part).bare
  | _, .sequenceList parts => .sequenceList fun part => (parts part).bare
  | _, .choice alternatives => .choice fun index => (alternatives index).bare
  | _, .many parser => .many parser.bare
  | _, .manyOne parser => .manyOne parser.bare
  | _, .sepBy separator item => .sepBy separator.bare item.bare
  | _, .optional parser => .optional parser.bare
  | _, .rule name => .rule name
  | _, .fresh memory parser => .fresh memory parser.bare

/-- Of the two conversions only the one of the value is left. -/
theorem Parser.bare_bimap {A B : Type} (convert : A → B) (convertError : Failure → Failure)
    (parser : Parser signature A) :
    (parser.bimap convert convertError).bare = .map convert parser.bare := rfl

/-- The rules are bare as well. -/
def Grammar.bare (grammar : Grammar signature) : Grammar signature :=
  fun rule => (grammar rule).bare

/-- Any two failures are alike. -/
def Likeness.anyFailure (medium : Medium) : Likeness medium := ⟨Eq, fun _ _ => True⟩

theorem Reading.Alike.refl {medium : Medium} {A : Type} {likeness : Likeness medium}
    (cursors : ∀ cursor, likeness.cursors cursor cursor)
    (failures : ∀ reason, likeness.failures reason reason) (reading : Reading medium A) :
    reading.Alike likeness reading := by
  cases reading with
  | success next value => exact .success (cursors next) value
  | failure reason => exact .failure (failures reason)
  | fault problem => exact .fault problem

/-- A parser and its bare form are alike when the rules are. -/
theorem Parser.behaviour_alike_bare
    {call bareCall : (rule : signature.Rule) →
      Behaviour signature.medium signature.Memory (signature.result rule)}
    (alike : ∀ rule, (call rule).Alike (.anyFailure _) (bareCall rule)) (fuel : Nat) {A : Type}
    (parser : Parser signature A) :
    (parser.behaviour call fuel).Alike (.anyFailure _) (parser.bare.behaviour bareCall fuel) := by
  induction parser with
  | leaf wanted =>
      apply Behaviour.Alike.leaf
      rintro cursor _ rfl
      exact .refl (fun _ => rfl) (fun _ => trivial) _
  | function run =>
      apply Behaviour.Alike.function
      rintro cursor _ rfl memory
      exact ⟨.refl (fun _ => rfl) (fun _ => trivial) _, rfl⟩
  | succeed value => exact .succeed value
  | fail reason => exact .fail trivial
  | map convert parser alike => exact alike.map convert
  | chain parser next alike nextAlike => exact alike.chain nextAlike
  | ap applied argument alike argumentAlike => exact alike.ap argumentAlike
  | mapError convert parser alike => exact alike.mapError_left fun _ _ _ => trivial
  | label name parser alike => exact alike.label_left fun _ _ _ _ _ _ => trivial
  | parseAs reader parser alike => exact alike.parseAs fun _ _ _ _ => trivial
  | sequence parts alike => exact (Behaviour.Alike.tuple alike).announce _ _
  | sequenceList parts alike => exact (Behaviour.Alike.row alike).announce _ _
  | choice alternatives alike =>
      have attempted := Behaviour.Alike.attempt alike (fun _ _ _ _ _ _ => trivial) .nil
      exact attempted.announce _ _
  | many parser alike => exact alike.many fuel
  | manyOne parser alike => exact alike.manyOne fuel fun _ _ _ _ _ _ => trivial
  | sepBy separator item alike itemAlike => exact alike.sepBy itemAlike fuel
  | optional parser alike => exact alike.optional
  | rule name => exact (alike name).announce _ _
  | fresh memory parser alike => exact alike.fresh memory

theorem Grammar.call_alike_bare (grammar : Grammar signature) (fuel : Nat)
    (rule : signature.Rule) :
    (grammar.call fuel rule).Alike (.anyFailure _) (grammar.bare.call fuel rule) := by
  induction fuel generalizing rule with
  | zero => exact fun _ _ _ _ _ _ => .unfinished
  | succ fuel inductionHypothesis =>
      exact Parser.behaviour_alike_bare inductionHypothesis fuel (grammar rule)

theorem Grammar.outcome_alike_bare (grammar : Grammar signature) (fuel : Nat) {A : Type}
    (parser : Parser signature A) :
    (grammar.outcome fuel parser).Alike (.anyFailure _) (grammar.bare.outcome fuel parser.bare) :=
  Parser.behaviour_alike_bare (grammar.call_alike_bare fuel) fuel parser

/-- The handling of failures decides only what is reported. Without it, a parser succeeds at the
same cursor with the same value, or fails, or diverges, just as with it. -/
theorem Grammar.bare_ends_as_before (grammar : Grammar signature) {A : Type}
    (parser : Parser signature A) (cursor : Cursor signature.medium)
    (session : Session signature.Memory) :
    (∀ next value, grammar.Succeeds parser cursor session next value ↔
        grammar.bare.Succeeds parser.bare cursor session next value) ∧
      (grammar.Fails parser cursor session ↔ grammar.bare.Fails parser.bare cursor session) ∧
      (grammar.Diverges parser cursor session ↔
        grammar.bare.Diverges parser.bare cursor session) := by
  have alike := fun fuel =>
    grammar.outcome_alike_bare fuel parser cursor cursor rfl session session rfl
  refine ⟨fun next value => ⟨?_, ?_⟩, Grammar.fails_iff_of_alike alike,
    Grammar.diverges_iff_of_alike alike⟩
  · intro succeeds
    obtain ⟨_, rfl, bareSucceeds⟩ := Grammar.succeeds_of_alike alike succeeds
    exact bareSucceeds
  · intro bareSucceeds
    obtain ⟨_, rfl, succeeds⟩ :=
      Grammar.succeeds_of_alike (fun fuel => (alike fuel).flip) bareSucceeds
    exact succeeds

end ParserCombinators
