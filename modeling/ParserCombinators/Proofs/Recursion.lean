/-
This file compares the loop of a repetition with a rule that calls itself. The rule could go back
into an earlier choice when a later call fails, but none of its calls ever fails, so both read the
same values.
-/

import ParserCombinators.Proofs.Approximation
import ParserCombinators.Proofs.Failure.Regrouping
import ParserCombinators.Proofs.Repetition
import ParserCombinators.Proofs.Separation

namespace ParserCombinators

/-- One more rule with a result of its own. It is named by `none`. -/
@[reducible] def Signature.withRule (signature : Signature) (B : Type) : Signature :=
  ⟨signature.medium, signature.Memory, Option signature.Rule, fun
    | none => B
    | some rule => signature.result rule⟩

section

variable {signature : Signature} {A : Type}

/-- A call of the new rule. -/
def Parser.newRule {B : Type} : Parser (signature.withRule B) B := @rule (signature.withRule B) none

/-- A value and the values of another call, or no values at all. -/
def Parser.recursiveMany (parser : Parser (signature.withRule (List A)) A) :
    Parser (signature.withRule (List A)) (List A) :=
  choiceOf [chain parser fun first => map (first :: ·) newRule, succeed []]

/-- The new rule repeats the parser by calling itself. The parser and the other rules may call it
too. -/
def Grammar.withMany
    (others : (rule : signature.Rule) →
      Parser (signature.withRule (List A)) (signature.result rule))
    (parser : Parser (signature.withRule (List A)) A) : Grammar (signature.withRule (List A))
  | none => parser.recursiveMany
  | some rule => others rule

namespace Behaviour

variable {medium : Medium} {Memory : Type}

theorem choice_succeed_ne_failure (parser : Behaviour medium Memory A) (value : A)
    (cursor : Cursor medium) (session : Session Memory) (reason : Failure)
    (final : Session Memory) :
    choice [parser, succeed value] cursor session ≠ .failure reason final := by
  rw [choice_succeed]
  cases parser cursor (session.record cursor.index (.choice 2) .began) <;> nofun

/-- The round that ends a repetition fails where the repetition succeeds. -/
theorem exists_failure_of_repeatFrom {parser : Behaviour medium Memory A} {fuel : Nat}
    {values found : List A} {cursor next : Cursor medium} {session final : Session Memory}
    (success : repeatFrom parser fuel values cursor session = .success next found final) :
    ∃ later reason, parser next later = .failure reason final := by
  induction fuel generalizing values cursor session with
  | zero => cases success
  | succ fuel inductionHypothesis =>
      rw [repeatFrom_succ] at success
      rcases Outcome.resolve_eq_success success with
        ⟨middle, value, later, _, others⟩ | ⟨reason, later, failed, ended⟩
      · exact inductionHypothesis others
      · cases ended
        exact ⟨session, reason, failed⟩

end Behaviour

namespace Grammar

variable
  (others : (rule : signature.Rule) → Parser (signature.withRule (List A)) (signature.result rule))
  (parser : Parser (signature.withRule (List A)) A) (fuel : Nat)
  (cursor : Cursor signature.medium) (session : Session signature.Memory)

theorem outcome_recursiveMany_eq_choice :
    (withMany others parser).outcome fuel parser.recursiveMany =
      .choice [.chain ((withMany others parser).outcome fuel parser) fun first =>
        .map (first :: ·) ((withMany others parser).outcome fuel .newRule), .succeed []] := by
  show (Parser.choiceOf _).behaviour _ _ = _
  rw [Parser.behaviour_choiceOf]
  rfl

/-- Neither the rule nor a call of it fails. -/
theorem outcome_recursiveMany_ne_failure (reason : Failure) (final : Session signature.Memory) :
    (withMany others parser).outcome fuel parser.recursiveMany cursor session ≠
      .failure reason final := by
  rw [outcome_recursiveMany_eq_choice]
  exact Behaviour.choice_succeed_ne_failure _ _ cursor session reason final

theorem not_fails_recursiveMany :
    ¬ (withMany others parser).Fails parser.recursiveMany cursor session := by
  rintro ⟨fuel, reason, final, failed⟩
  exact outcome_recursiveMany_ne_failure others parser fuel cursor session reason final failed

theorem call_ne_failure (reason : Failure) (final : Session signature.Memory) :
    (withMany others parser).outcome fuel .newRule cursor session ≠ .failure reason final := by
  cases fuel with
  | zero => nofun
  | succ fuel =>
      exact outcome_recursiveMany_ne_failure others parser fuel cursor _ reason final

/-- After a value the rule only goes on. It does not come back to its second alternative. -/
theorem outcome_recursiveMany :
    (withMany others parser).outcome fuel parser.recursiveMany cursor session =
      ((withMany others parser).outcome fuel parser cursor
        (session.record cursor.index (.choice 2) .began)).resolve
          (fun next first later => Behaviour.map (first :: ·)
            ((withMany others parser).outcome fuel .newRule) next later)
          fun _ later => .success cursor [] later := by
  rw [outcome_recursiveMany_eq_choice, Behaviour.choice_succeed]
  show (((withMany others parser).outcome fuel parser cursor _).andThen _).orElse _ = _
  cases (withMany others parser).outcome fuel parser cursor
      (session.record cursor.index (.choice 2) .began) with
  | unfinished => rfl
  | fault problem => rfl
  | failure reason later => rfl
  | success next first later =>
      show (((withMany others parser).outcome fuel .newRule next later).andThen _).orElse _ =
        ((withMany others parser).outcome fuel .newRule next later).andThen _
      -- Only a failure of the call could lead to the second alternative.
      have never := call_ne_failure others parser fuel next later
      cases same : (withMany others parser).outcome fuel .newRule next later with
      | unfinished => rfl
      | fault problem => rfl
      | failure reason final => exact absurd same (never reason final)
      | success last values final => rfl

/-- The latest value so far stands right in front of the values that follow. -/
theorem map_reverse_cons (value : A) (values : List A)
    (parser : Behaviour signature.medium signature.Memory (List A)) :
    Behaviour.map ((value :: values).reverse ++ ·) parser =
      .map (values.reverse ++ ·) (.map (value :: ·) parser) := by
  rw [Behaviour.map_map]
  congr 1
  funext more
  rw [List.reverse_cons, List.append_assoc]
  rfl

theorem map_reverse_nil (parser : Behaviour signature.medium signature.Memory (List A)) :
    Behaviour.map ((List.reverse []) ++ ·) parser = parser :=
  parser.chain_succeed

/-- The rule makes every round of the loop. The values so far stand in front of those of the
rule. -/
theorem repeatFrom_approximates_recursiveMany (rounds : Nat) (values : List A) :
    (Behaviour.repeatFrom ((withMany others parser).outcome fuel parser) rounds
      values).Approximates (.same _)
      (.map (values.reverse ++ ·)
        ((withMany others parser).outcome (fuel + rounds) parser.recursiveMany)) := by
  induction rounds generalizing values with
  | zero => exact fun _ _ _ _ _ _ => .inl rfl
  | succ rounds inductionHypothesis =>
      intro cursor cursor' cursors session session' memories
      have first := outcome_approximates_of_le (withMany others parser)
        (Nat.le_add_right fuel (rounds + 1)) parser cursor cursor' cursors session
        (session'.record cursor'.index (.choice 2) .began) memories
      rw [Behaviour.repeatFrom_succ, Behaviour.map, outcome_recursiveMany, Outcome.resolve_andThen]
      apply first.resolve
      · intro next next' value later later' nexts laterMemories
        have rest := inductionHypothesis (value :: values) next next' nexts later
          (later'.record next'.index .lazy .began) laterMemories
        rw [map_reverse_cons] at rest
        exact rest
      · intro reason reason' later later' _ laterMemories
        show Outcome.Approximates _ _ (.success cursor' (values.reverse ++ []) later')
        rw [List.append_nil]
        exact .inr (.success cursors _ laterMemories)

/-- If the loop reads what calls of the rule read, then it reads what the rule reads. It needs one
more round in order to end. -/
theorem recursiveMany_approximates_of_newRule {rounds : Nat} {values : List A}
    (called : ∀ value, (Behaviour.map ((value :: values).reverse ++ ·)
      ((withMany others parser).outcome fuel .newRule)).Approximates (.same _)
        (.repeatFrom ((withMany others parser).outcome fuel parser) rounds (value :: values))) :
    (Behaviour.map (values.reverse ++ ·)
      ((withMany others parser).outcome fuel parser.recursiveMany)).Approximates (.same _)
        (.repeatFrom ((withMany others parser).outcome fuel parser) (rounds + 1) values) := by
  intro cursor cursor' cursors session session' memories
  have first := (withMany others parser).outcome_alike_same fuel parser cursor cursor' cursors
    (session.record cursor.index (.choice 2) .began) session' memories
  rw [Behaviour.repeatFrom_succ, Behaviour.map, outcome_recursiveMany, Outcome.resolve_andThen]
  apply Outcome.Approximates.resolve (.inr first)
  · intro next next' value later later' nexts laterMemories
    have rest := called value next next' nexts later later' laterMemories
    rw [map_reverse_cons] at rest
    exact rest
  · intro reason reason' later later' _ laterMemories
    show Outcome.Approximates _ (.success cursor (values.reverse ++ []) later) _
    rw [List.append_nil]
    exact .inr (.success cursors _ laterMemories)

/-- What the rule reads is also read by the loop. -/
theorem recursiveMany_approximates_repeatFrom (values : List A) :
    (Behaviour.map (values.reverse ++ ·)
      ((withMany others parser).outcome fuel parser.recursiveMany)).Approximates (.same _)
        (.repeatFrom ((withMany others parser).outcome fuel parser) (fuel + 1) values) := by
  induction fuel generalizing values with
  | zero =>
      exact recursiveMany_approximates_of_newRule others parser 0 fun _ _ _ _ _ _ _ => .inl rfl
  | succ fuel inductionHypothesis =>
      apply recursiveMany_approximates_of_newRule others parser
      intro value cursor cursor' cursors session session' memories
      have rest := inductionHypothesis (value :: values) cursor cursor' cursors
        (session.record cursor.index .lazy .began) session' memories
      exact rest.of_refines ((withMany others parser).repeatFrom_refines (Nat.le_succ fuel)
        (Nat.le_refl _) parser (value :: values) cursor' session')

/-- The rule comes as far as the loop. -/
theorem many_approximates_recursiveMany :
    ((withMany others parser).outcome fuel (.many parser)).Approximates (.same _)
      ((withMany others parser).outcome (fuel + fuel) parser.recursiveMany) := by
  intro cursor cursor' cursors session session' memories
  have loop := repeatFrom_approximates_recursiveMany others parser fuel fuel []
  rw [map_reverse_nil] at loop
  exact loop.recordCount_left .manyEnd cursor cursor' cursors
    (session.record cursor.index .many .began) session' memories

/-- The loop comes as far as the rule. -/
theorem recursiveMany_approximates_many :
    ((withMany others parser).outcome fuel parser.recursiveMany).Approximates (.same _)
      ((withMany others parser).outcome (fuel + 1) (.many parser)) := by
  intro cursor cursor' cursors session session' memories
  let begun := session'.record cursor'.index .many .began
  have rule := recursiveMany_approximates_repeatFrom others parser fuel []
  rw [map_reverse_nil] at rule
  have refines := (Behaviour.Refines.recordCount
    ((withMany others parser).repeatFrom_refines (Nat.le_succ fuel) (Nat.le_refl (fuel + 1)) parser
      []) .manyEnd) cursor' begun
  exact (rule.recordCount_right .manyEnd cursor cursor' cursors session begun memories).of_refines
    refines

end Grammar

namespace Grammar

variable {grammar : Grammar signature} {parser : Parser signature A} {fuel : Nat}
  {cursor : Cursor signature.medium} {session : Session signature.Memory}

theorem not_fails_many : ¬ grammar.Fails (.many parser) cursor session := by
  rintro ⟨fuel, reason, final, failed⟩
  exact Behaviour.recordCount_repeatFrom_ne_failure _ _ _ _ _ _ reason final failed

/-- A pure parser fails where its repetition ends. -/
theorem Pure.fails_behind_many (pure : grammar.Pure parser) {next : Cursor signature.medium}
    {values : List A} (succeeds : grammar.Succeeds (.many parser) cursor session next values)
    (session' : Session signature.Memory) : grammar.Fails parser next session' := by
  obtain ⟨fuel, final, success⟩ := succeeds
  obtain ⟨last, found, later, rounds, counted⟩ := Outcome.andThen_eq_success success
  cases counted
  obtain ⟨session, reason, failed⟩ := Behaviour.exists_failure_of_repeatFrom rounds
  exact (pure.fails ⟨fuel, later, failed⟩ session').fails

/-- A repetition of at least one value fails just when its first round does. -/
theorem failsWith_manyOne_iff {reason : Failure} :
    grammar.FailsWith (.manyOne parser) cursor session reason ↔
      ∃ cause, grammar.FailsWith parser cursor session cause ∧
        reason = .single ⟨.manyOne, "expected at least one match", some cursor.index⟩ cause := by
  constructor
  · rintro ⟨fuel, final, failed⟩
    rcases Outcome.resolve_eq_failure failed with
      ⟨next, first, later, _, impossible⟩ | ⟨cause, later, first, recorded⟩
    · exact absurd impossible
        (Behaviour.recordCount_repeatFrom_ne_failure _ _ _ _ _ _ reason final)
    · cases recorded
      exact ⟨cause, FailsWith.withSession ⟨fuel, later, first⟩ rfl, rfl⟩
  · rintro ⟨cause, fails, rfl⟩
    have begun : grammar.FailsWith parser cursor (session.record cursor.index .manyOne .began)
      cause := fails.withSession rfl
    obtain ⟨fuel, later, first⟩ := begun
    refine ⟨fuel, later.record cursor.index .manyOne
      (.failed (Behaviour.manyOneFailure cursor.index cause)), ?_⟩
    show (grammar.outcome fuel parser cursor _).resolve _ _ = _
    rw [first]
    rfl

/-- If the first round does not fail, then at least one value is as many values as there are. -/
theorem outcome_manyOne_of_not_fails (goes : ¬ grammar.Fails parser cursor session) (fuel : Nat) :
    grammar.outcome fuel (.manyOne parser) cursor session =
      Behaviour.recordCount .manyOneEnd
        (.repeatFrom (grammar.outcome fuel parser) (fuel + 1) []) cursor
          (session.record cursor.index .manyOne .began) := by
  show (grammar.outcome fuel parser cursor (session.record cursor.index .manyOne .began)).resolve
    _ _ = (Behaviour.repeatFrom _ _ _ _ _).andThen _
  rw [Behaviour.repeatFrom_succ]
  cases same : grammar.outcome fuel parser cursor
      (session.record cursor.index .manyOne .began) with
  | unfinished => rfl
  | fault problem => rfl
  | failure cause later =>
      have fails : grammar.FailsWith parser cursor session cause :=
        FailsWith.withSession ⟨fuel, later, same⟩ rfl
      exact absurd fails.fails goes
  | success next first later => rfl

theorem repeatFrom_approximates_of_le {fuel' rounds rounds' : Nat} (enough : fuel ≤ fuel')
    (enoughRounds : rounds ≤ rounds') (values : List A) :
    (Behaviour.repeatFrom (grammar.outcome fuel parser) rounds values).Approximates (.same _)
      (.repeatFrom (grammar.outcome fuel' parser) rounds' values) :=
  (grammar.repeatFrom_refines enough enoughRounds parser values).approximates
    ((grammar.outcome_alike_same fuel' parser).repeatFrom rounds' values)

/-- Behind a first round that does not fail both repetitions are the same. -/
theorem sameEnd_manyOne_many (goes : ¬ grammar.Fails parser cursor session) :
    grammar.SameEnd (.manyOne parser) (.many parser) cursor session := by
  apply Approximates.sameEnd
  · intro fuel
    refine ⟨fuel + 1, ?_⟩
    rw [outcome_manyOne_of_not_fails goes]
    exact (repeatFrom_approximates_of_le (Nat.le_succ fuel) (Nat.le_refl _) []).recordCount
      .manyOneEnd .manyEnd cursor cursor rfl _ (session.record cursor.index .many .began) rfl
  · intro fuel
    refine ⟨fuel, ?_⟩
    rw [outcome_manyOne_of_not_fails goes]
    exact (repeatFrom_approximates_of_le (Nat.le_refl fuel) (Nat.le_succ fuel) []).recordCount
      .manyEnd .manyOneEnd cursor cursor rfl (session.record cursor.index .many .began) _ rfl

/-- The loop of a repetition and the rule that calls itself come equally far and remember the same.
They both succeed with the same values at the same cursor, or both diverge, or both end in the same
fault, and neither of them fails. A pure parser fails where its repetition ends. A repetition of at
least one value fails just when its first round fails, and for that reason. Otherwise it has the end
of the other repetition. -/
theorem many_agrees_with_recursion
    (others : (rule : signature.Rule) →
      Parser (signature.withRule (List A)) (signature.result rule))
    (parser : Parser (signature.withRule (List A)) A) (cursor : Cursor signature.medium)
    (session : Session signature.Memory) :
    (∀ fuel, ((withMany others parser).outcome fuel (.many parser) cursor session).Approximates
      (.same _) ((withMany others parser).outcome (fuel + fuel) parser.recursiveMany cursor
        session)) ∧
    (∀ fuel, ((withMany others parser).outcome fuel parser.recursiveMany cursor
      session).Approximates (.same _)
        ((withMany others parser).outcome (fuel + 1) (.many parser) cursor session)) ∧
    (withMany others parser).SameEnd (.many parser) parser.recursiveMany cursor session ∧
    ((∃ next values, (withMany others parser).Succeeds (.many parser) cursor session next values ∧
        (withMany others parser).Succeeds parser.recursiveMany cursor session next values) ∨
      ((withMany others parser).Diverges (.many parser) cursor session ∧
        (withMany others parser).Diverges parser.recursiveMany cursor session) ∨
      ∃ problem, (withMany others parser).Faults (.many parser) cursor session problem ∧
        (withMany others parser).Faults parser.recursiveMany cursor session problem) ∧
    ¬ (withMany others parser).Fails (.many parser) cursor session ∧
    ¬ (withMany others parser).Fails parser.recursiveMany cursor session ∧
    ((withMany others parser).Pure parser → ∀ next values,
      (withMany others parser).Succeeds (.many parser) cursor session next values →
        ∀ session', (withMany others parser).Fails parser next session') ∧
    (∀ reason, (withMany others parser).FailsWith (.manyOne parser) cursor session reason ↔
      ∃ cause, (withMany others parser).FailsWith parser cursor session cause ∧
        reason = .single ⟨.manyOne, "expected at least one match", some cursor.index⟩ cause) ∧
    (¬ (withMany others parser).Fails parser cursor session →
      (withMany others parser).SameEnd (.manyOne parser) (.many parser) cursor session) := by
  have loop (fuel : Nat) :=
    many_approximates_recursiveMany others parser fuel cursor cursor rfl session session rfl
  have rule (fuel : Nat) :=
    recursiveMany_approximates_many others parser fuel cursor cursor rfl session session rfl
  have same : (withMany others parser).SameEnd (.many parser) parser.recursiveMany cursor session :=
    Approximates.sameEnd (fun fuel => ⟨_, loop fuel⟩) fun fuel => ⟨_, rule fuel⟩
  refine ⟨loop, rule, same, ?_, not_fails_many,
    not_fails_recursiveMany others parser cursor session, ?_, fun _ => failsWith_manyOne_iff,
    sameEnd_manyOne_many⟩
  · by_cases diverges : (withMany others parser).Diverges (.many parser) cursor session
    · exact .inr (.inl ⟨diverges, same.diverges.mp diverges⟩)
    · rcases ends_of_not_diverges diverges with ⟨next, values, succeeds⟩ | fails | ⟨problem, faults⟩
      · exact .inl ⟨next, values, succeeds, (same.succeeds next values).mp succeeds⟩
      · exact absurd fails not_fails_many
      · exact .inr (.inr ⟨problem, faults, (same.faults problem).mp faults⟩)
  · intro pure next values succeeds session'
    exact pure.fails_behind_many succeeds session'

end Grammar

end

namespace Tokens

/-- A literal is read twice, and the third round fails. -/
theorem repeated_literal_agrees_with_recursion :
    let others : (rule : signature.Rule) → Parser (signature.withRule (List String))
      (signature.result rule) := fun rule => nomatch rule
    let parser : Parser (signature.withRule (List String)) String := .leaf (.literal "a")
    let grammar := Grammar.withMany others parser
    grammar.Pure parser ∧ ¬ grammar.Fails parser (.ofText "aab") (.initial ()) ∧
      ∃ next, grammar.Succeeds parser.recursiveMany (.ofText "aab") (.initial ()) next ["a", "a"] ∧
        grammar.Succeeds (.manyOne parser) (.ofText "aab") (.initial ()) next ["a", "a"] ∧
        grammar.Fails parser next (.initial ()) := by
  intro others parser grammar
  have pure : grammar.Pure parser := Grammar.pure_of_subsingleton grammar parser
  have first : grammar.Succeeds parser (.ofText "aab") (.initial ()) ⟨"aab".toList, 1⟩ "a" :=
    ⟨0, _, rfl⟩
  have loop : grammar.Succeeds (.many parser) (.ofText "aab") (.initial ()) ⟨"aab".toList, 2⟩
    ["a", "a"] := ⟨3, _, rfl⟩
  obtain ⟨_, _, same, _, _, _, ends, _, manyOne⟩ :=
    Grammar.many_agrees_with_recursion others parser (.ofText "aab") (.initial ())
  exact ⟨pure, first.not_fails, _, (same.succeeds _ _).mp loop,
    ((manyOne first.not_fails).succeeds _ _).mpr loop, ends pure _ _ loop _⟩

end Tokens

end ParserCombinators
