/-
This file shows exactly when repetitions return. A repetition goes on for ever just when its rounds
come to a place where a round succeeds without advancing.
-/

import Mathlib.Logic.Relation
import ParserCombinators.Grammar.Tokens
import ParserCombinators.Proofs.Ending
import ParserCombinators.Proofs.Outcome
import ParserCombinators.Proofs.Reading

namespace ParserCombinators

/-- The cursor has a place in the input. -/
structure Cursor.LiesIn {medium : Medium} (cursor : Cursor medium) (input : List medium.Element) :
    Prop where
  sameInput : cursor.input = input
  within : cursor.index ≤ cursor.length

theorem Cursor.LiesIn.eq_of_index_eq {medium : Medium} {cursor next : Cursor medium}
    {input : List medium.Element} (lies : cursor.LiesIn input) (nextLies : next.LiesIn input)
    (same : next.index = cursor.index) : next = cursor := by
  obtain ⟨_, index⟩ := cursor
  obtain ⟨_, nextIndex⟩ := next
  obtain rfl := lies.sameInput
  obtain rfl := nextLies.sameInput
  exact congrArg _ same

/-- One more round goes on with its value or ends the repetition. -/
theorem Behaviour.repeatFrom_succ {medium : Medium} {Memory A : Type}
    (parser : Behaviour medium Memory A) (rounds : Nat) (values : List A) (cursor : Cursor medium)
    (session : Session Memory) :
    repeatFrom parser (rounds + 1) values cursor session =
      (parser cursor session).resolve
        (fun next value later => repeatFrom parser rounds (value :: values) next later)
        fun _ later => .success cursor values.reverse later :=
  rfl

theorem Outcome.Returned.ne_unfinished {medium : Medium} {Memory A : Type}
    {outcome : Outcome medium Memory A} (returned : outcome.Returned) : outcome ≠ .unfinished := by
  rintro rfl
  exact returned

namespace Grammar

section

variable {signature : Signature} {A B C : Type} {grammar : Grammar signature}

/-- With enough fuel the parse succeeds or fails. -/
def Returns (grammar : Grammar signature) (parser : Parser signature A)
    (cursor : Cursor signature.medium) (session : Session signature.Memory) : Prop :=
  ∃ fuel, (grammar.outcome fuel parser cursor session).Returned

/-- The parse returns under this condition and diverges otherwise. -/
structure ReturnsExactly (grammar : Grammar signature) (parser : Parser signature A)
    (cursor : Cursor signature.medium) (session : Session signature.Memory) (condition : Prop) :
    Prop where
  returns : grammar.Returns parser cursor session ↔ condition
  diverges : grammar.Diverges parser cursor session ↔ ¬ condition

/-- The parser returns everywhere in the input, and how it ends depends on nothing but the cursor.
It never moves back or past the end. -/
structure Steady (grammar : Grammar signature) (parser : Parser signature A)
    (input : List signature.medium.Element) : Prop where
  returns : ∀ cursor session, cursor.LiesIn input → grammar.Returns parser cursor session
  pure : ∀ cursor session session' next value, cursor.LiesIn input →
    grammar.Succeeds parser cursor session next value →
      grammar.Succeeds parser cursor session' next value
  moves : ∀ cursor session next value, cursor.LiesIn input →
    grammar.Succeeds parser cursor session next value →
      next.LiesIn input ∧ cursor.index ≤ next.index

/-- A success leads from the first cursor to the second one. -/
def Steps (grammar : Grammar signature) (parser : Parser signature A)
    (cursor next : Cursor signature.medium) : Prop :=
  ∃ session value, grammar.Succeeds parser cursor session next value

/-- Repeated successes lead to a place where the parser succeeds without advancing. -/
def Stalls (grammar : Grammar signature) (parser : Parser signature A)
    (cursor : Cursor signature.medium) : Prop :=
  ∃ reached next, Relation.ReflTransGen (grammar.Steps parser) cursor reached ∧
    grammar.Steps parser reached next ∧ next.index = reached.index

variable {parser : Parser signature A} {separator : Parser signature B}
  {cursor next : Cursor signature.medium} {session : Session signature.Memory}
  {input : List signature.medium.Element} {value : A}

/-- With any fuel the parse is unfinished or has this success. -/
theorem Succeeds.outcome (succeeds : grammar.Succeeds parser cursor session next value)
    (fuel : Nat) :
    grammar.outcome fuel parser cursor session = .unfinished ∨
      ∃ final, grammar.outcome fuel parser cursor session = .success next value final := by
  obtain ⟨enough, final, same⟩ := succeeds
  by_cases unfinished : grammar.outcome fuel parser cursor session = .unfinished
  · exact .inl unfinished
  · have agree := outcome_eq_of_finished fuel enough unfinished (by rw [same]; nofun)
    exact .inr ⟨final, agree.trans same⟩

theorem Succeeds.returns (succeeds : grammar.Succeeds parser cursor session next value) :
    grammar.Returns parser cursor session := by
  obtain ⟨fuel, final, same⟩ := succeeds
  exact ⟨fuel, by rw [same]; trivial⟩

theorem Fails.returns (fails : grammar.Fails parser cursor session) :
    grammar.Returns parser cursor session := by
  obtain ⟨fuel, reason, final, same⟩ := fails
  exact ⟨fuel, by rw [same]; trivial⟩

theorem Returns.succeeds_or_fails (returns : grammar.Returns parser cursor session) :
    (∃ next value, grammar.Succeeds parser cursor session next value) ∨
      grammar.Fails parser cursor session := by
  obtain ⟨fuel, returned⟩ := returns
  rcases returned.success_or_failure with ⟨next, value, final, same⟩ | ⟨reason, final, same⟩
  · exact .inl ⟨next, value, fuel, final, same⟩
  · exact .inr ⟨fuel, reason, final, same⟩

theorem Returns.not_diverges (returns : grammar.Returns parser cursor session) :
    ¬ grammar.Diverges parser cursor session := by
  intro diverges
  obtain ⟨fuel, returned⟩ := returns
  exact returned.ne_unfinished (diverges fuel)

theorem ReturnsExactly.of_cases {condition : Prop}
    (returns : condition → grammar.Returns parser cursor session)
    (diverges : ¬ condition → grammar.Diverges parser cursor session) :
    grammar.ReturnsExactly parser cursor session condition where
  returns := by
    refine ⟨fun returned => ?_, returns⟩
    by_contra never
    exact returned.not_diverges (diverges never)
  diverges := ⟨fun never holds => (returns holds).not_diverges never, diverges⟩

/-- Behind a success the parser that was chosen goes on. -/
theorem outcome_chain_of_success {first : Parser signature A} {after : A → Parser signature B}
    {later : Session signature.Memory} {fuel fuel' : Nat}
    (success : grammar.outcome fuel first cursor session = .success next value later)
    (finished : grammar.outcome fuel' (after value) next later ≠ .unfinished) :
    grammar.outcome (max fuel fuel') (.chain first after) cursor session =
      grammar.outcome fuel' (after value) next later := by
  have begun := grammar.outcome_eq_of_le (Nat.le_max_left fuel fuel') first cursor session
    (by rw [success]; nofun)
  show (grammar.outcome (max fuel fuel') first cursor session).andThen _ = _
  rw [begun, success]
  exact grammar.outcome_eq_of_le (Nat.le_max_right fuel fuel') (after value) next later finished

/-- A repetition that has ended ends in the same way with more fuel and more rounds. -/
theorem repeatFrom_eq_of_le {fuel fuel' rounds : Nat} (enough : fuel ≤ fuel')
    (enoughRounds : fuel ≤ rounds) {values found : List A} {last : Cursor signature.medium}
    {final : Session signature.Memory}
    (repeated : Behaviour.repeatFrom (grammar.outcome fuel parser) fuel values cursor session =
      .success last found final) :
    Behaviour.repeatFrom (grammar.outcome fuel' parser) rounds values cursor session =
      .success last found final := by
  have better : (grammar.outcome fuel parser).Refines (grammar.outcome fuel' parser) :=
    Parser.behaviour_refines (grammar.call_refines enough) enough parser
  have refines := better.repeatFrom enoughRounds values cursor session
  rw [repeated] at refines
  exact (refines.resolve_left nofun).symm

namespace Steady

/-- A parse that fails in one session fails in every session. -/
theorem fails (steady : grammar.Steady parser input) (lies : cursor.LiesIn input)
    (fails : grammar.Fails parser cursor session) (session' : Session signature.Memory) :
    grammar.Fails parser cursor session' := by
  rcases (steady.returns cursor session' lies).succeeds_or_fails with
    ⟨next, value, succeeds⟩ | fails'
  · exact absurd fails (steady.pure cursor session' session next value lies succeeds).not_fails
  · exact fails'

/-- A parser that stalls goes on to a place from where it stalls. -/
theorem succeeds_of_stalls (steady : grammar.Steady parser input) (lies : cursor.LiesIn input)
    (stalls : grammar.Stalls parser cursor) (session : Session signature.Memory) :
    ∃ next value, grammar.Succeeds parser cursor session next value ∧
      grammar.Stalls parser next := by
  obtain ⟨reached, last, path, step, stays⟩ := stalls
  have pure {next : Cursor signature.medium} (step : grammar.Steps parser cursor next) :
      ∃ value, grammar.Succeeds parser cursor session next value := by
    obtain ⟨session', value, succeeds⟩ := step
    exact ⟨value, steady.pure cursor session' session next value lies succeeds⟩
  rcases path.cases_head with same | ⟨middle, first, others⟩
  · obtain rfl := same
    obtain ⟨value, succeeds⟩ := pure step
    have lastLies := (steady.moves cursor session last value lies succeeds).1
    obtain rfl := lies.eq_of_index_eq lastLies stays
    exact ⟨last, value, succeeds, last, last, .refl, step, rfl⟩
  · obtain ⟨value, succeeds⟩ := pure first
    exact ⟨middle, value, succeeds, reached, last, others, step, stays⟩

/-- However many rounds are made, the parser still stalls behind them. -/
theorem repeatFrom_unfinished (steady : grammar.Steady parser input) (lies : cursor.LiesIn input)
    (stalls : grammar.Stalls parser cursor) (fuel rounds : Nat) (values : List A)
    (session : Session signature.Memory) :
    Behaviour.repeatFrom (grammar.outcome fuel parser) rounds values cursor session =
      .unfinished := by
  induction rounds generalizing cursor values session with
  | zero => rfl
  | succ rounds inductionHypothesis =>
      obtain ⟨next, value, succeeds, nextStalls⟩ := steady.succeeds_of_stalls lies stalls session
      have nextLies := (steady.moves cursor session next value lies succeeds).1
      rw [Behaviour.repeatFrom_succ]
      rcases succeeds.outcome fuel with unfinished | ⟨final, success⟩
      · rw [unfinished]
        rfl
      · rw [success]
        exact inductionHypothesis nextLies nextStalls (value :: values) final

/-- Where the parser does not stall, every success leaves less to read. -/
theorem repeatFrom_returns (steady : grammar.Steady parser input) (lies : cursor.LiesIn input)
    (advances : ¬ grammar.Stalls parser cursor) (values : List A)
    (session : Session signature.Memory) :
    ∃ fuel last found final,
      Behaviour.repeatFrom (grammar.outcome fuel parser) fuel values cursor session =
        .success last found final ∧
      found.length ≤ values.length + (cursor.length - cursor.index) := by
  induction unread : cursor.length - cursor.index using Nat.strongRecOn
    generalizing cursor values session with
  | ind unread inductionHypothesis =>
      rcases (steady.returns cursor session lies).succeeds_or_fails with
        ⟨next, value, succeeds⟩ | ⟨fuel, reason, final, failed⟩
      · have step : grammar.Steps parser cursor next := ⟨session, value, succeeds⟩
        obtain ⟨nextLies, forward⟩ := steady.moves cursor session next value lies succeeds
        have moved : next.index ≠ cursor.index := fun stays =>
          advances ⟨cursor, next, .refl, step, stays⟩
        have nextAdvances : ¬ grammar.Stalls parser next := by
          rintro ⟨reached, last, path, stay⟩
          exact advances ⟨reached, last, .head step path, stay⟩
        have sameLength : next.length = cursor.length :=
          congrArg signature.medium.measure (nextLies.sameInput.trans lies.sameInput.symm)
        have within := nextLies.within
        obtain ⟨enough, middle, success⟩ := succeeds
        obtain ⟨fuel, last, found, final, repeated, bound⟩ :=
          inductionHypothesis (next.length - next.index) (by omega) nextLies nextAdvances
            (value :: values) middle rfl
        -- One amount of fuel has to serve this round and all others.
        refine ⟨max enough fuel + 1, last, found, final, ?_, ?_⟩
        · have first := grammar.outcome_eq_of_le (show enough ≤ max enough fuel + 1 by omega)
            parser cursor session (by rw [success]; nofun)
          rw [Behaviour.repeatFrom_succ, first, success]
          exact repeatFrom_eq_of_le (by omega) (Nat.le_max_right ..) repeated
        · rw [List.length_cons] at bound
          omega
      · refine ⟨fuel + 1, cursor, values.reverse, final, ?_, ?_⟩
        · have first := grammar.outcome_eq_of_le (Nat.le_succ fuel) parser cursor session
            (by rw [failed]; nofun)
          rw [Behaviour.repeatFrom_succ, first, failed]
          rfl
        · rw [List.length_reverse]
          omega

/-- The separator and the item behind it are as steady as both of them. -/
theorem chain (steady : grammar.Steady parser input)
    (separatorSteady : grammar.Steady separator input) :
    grammar.Steady (.chain separator fun _ => parser) input := by
  have succeeds {cursor next : Cursor signature.medium} {session : Session signature.Memory}
      {value : A} (lies : cursor.LiesIn input)
      (both : grammar.Succeeds (.chain separator fun _ => parser) cursor session next value) :
      ∃ middle between, middle.LiesIn input ∧
        grammar.Succeeds separator cursor session middle between ∧
          grammar.Succeeds parser middle session next value := by
    obtain ⟨fuel, final, same⟩ := both
    obtain ⟨middle, between, later, first, second⟩ := Outcome.andThen_eq_success same
    have separated : grammar.Succeeds separator cursor session middle between :=
      ⟨fuel, later, first⟩
    have middleLies := (separatorSteady.moves _ _ _ _ lies separated).1
    exact ⟨middle, between, middleLies, separated,
      steady.pure middle later session next value middleLies ⟨fuel, final, second⟩⟩
  constructor
  case returns =>
    intro cursor session lies
    rcases (separatorSteady.returns cursor session lies).succeeds_or_fails with
      ⟨middle, between, separated⟩ | ⟨fuel, reason, final, failed⟩
    · have middleLies := (separatorSteady.moves _ _ _ _ lies separated).1
      obtain ⟨enough, later, first⟩ := separated
      obtain ⟨fuel, returned⟩ := steady.returns middle later middleLies
      refine ⟨max enough fuel, ?_⟩
      rw [outcome_chain_of_success first returned.ne_unfinished]
      exact returned
    · refine ⟨fuel, ?_⟩
      show ((grammar.outcome fuel separator cursor session).andThen _).Returned
      rw [failed]
      trivial
  case pure =>
    intro cursor session session' next value lies both
    obtain ⟨middle, between, middleLies, separated, item⟩ := succeeds lies both
    obtain ⟨enough, later, first⟩ := separatorSteady.pure _ _ session' _ _ lies separated
    obtain ⟨fuel, final, second⟩ := steady.pure _ _ later _ _ middleLies item
    refine ⟨max enough fuel, final, ?_⟩
    rw [outcome_chain_of_success first (by rw [second]; nofun)]
    exact second
  case moves =>
    intro cursor session next value lies both
    obtain ⟨middle, between, middleLies, separated, item⟩ := succeeds lies both
    obtain ⟨nextLies, forward⟩ := steady.moves middle session next value middleLies item
    have earlier := (separatorSteady.moves _ _ _ _ lies separated).2
    exact ⟨nextLies, Nat.le_trans earlier forward⟩

/-- A repetition behind a first item returns when there is no first item or when its rounds do not
stall behind it. -/
theorem returnsExactly_firstThenRepeat (steady : grammar.Steady parser input)
    {step : Parser signature A} (stepSteady : grammar.Steady step input)
    (lies : cursor.LiesIn input) {whole : Parser signature (List A)}
    {begun : Session signature.Memory} {operation : Nat → Operation}
    {failed : Failure → Session signature.Memory →
      Outcome signature.medium signature.Memory (List A)}
    (unfolds : ∀ fuel, grammar.outcome fuel whole cursor session =
      (grammar.outcome fuel parser cursor begun).resolve
        (fun next first later => Behaviour.recordCount operation
          (Behaviour.repeatFrom (grammar.outcome fuel step) fuel [first]) next later)
        failed)
    (failedReturns : ∀ reason later, (failed reason later).Returned) :
    grammar.ReturnsExactly whole cursor session
      (grammar.Fails parser cursor session ∨
        ∃ next value, grammar.Succeeds parser cursor session next value ∧
          ¬ grammar.Stalls step next) := by
  apply ReturnsExactly.of_cases
  · rintro (fails | ⟨next, value, succeeds, advances⟩)
    · obtain ⟨fuel, reason, final, same⟩ := steady.fails lies fails begun
      refine ⟨fuel, ?_⟩
      rw [unfolds, same]
      exact failedReturns reason final
    · have nextLies := (steady.moves cursor session next value lies succeeds).1
      obtain ⟨enough, later, success⟩ := steady.pure _ _ begun _ _ lies succeeds
      obtain ⟨fuel, last, found, final, repeated, _⟩ :=
        stepSteady.repeatFrom_returns nextLies advances [value] later
      refine ⟨max enough fuel, ?_⟩
      have first := grammar.outcome_eq_of_le (Nat.le_max_left enough fuel) parser cursor begun
        (by rw [success]; nofun)
      rw [unfolds, first, success]
      show ((Behaviour.repeatFrom (grammar.outcome (max enough fuel) step) (max enough fuel) [value]
        next later).andThen _).Returned
      rw [repeatFrom_eq_of_le (Nat.le_max_right ..) (Nat.le_max_right ..) repeated]
      trivial
  · intro never fuel
    rcases (steady.returns cursor begun lies).succeeds_or_fails with
      ⟨next, value, succeeds⟩ | fails
    · have nextLies := (steady.moves cursor begun next value lies succeeds).1
      have stalls : grammar.Stalls step next := by
        by_contra advances
        exact never (.inr ⟨next, value, steady.pure _ _ session _ _ lies succeeds, advances⟩)
      rw [unfolds]
      rcases succeeds.outcome fuel with unfinished | ⟨later, success⟩
      · rw [unfinished]
        rfl
      · rw [success]
        show (Behaviour.repeatFrom (grammar.outcome fuel step) fuel [value] next later).andThen _ =
          _
        rw [stepSteady.repeatFrom_unfinished nextLies stalls]
        rfl
    · exact absurd (.inl (steady.fails lies fails session)) never

/-- A repetition of any number of values. -/
theorem many (steady : grammar.Steady parser input) (lies : cursor.LiesIn input)
    (session : Session signature.Memory) :
    grammar.ReturnsExactly (.many parser) cursor session (¬ grammar.Stalls parser cursor) ∧
      ∀ last values, grammar.Succeeds (.many parser) cursor session last values →
        values.length ≤ cursor.length - cursor.index := by
  let begun := session.record cursor.index .many .began
  have diverges (stalls : grammar.Stalls parser cursor) :
      grammar.Diverges (.many parser) cursor session := by
    intro fuel
    show (Behaviour.repeatFrom (grammar.outcome fuel parser) fuel [] cursor begun).andThen _ = _
    rw [steady.repeatFrom_unfinished lies stalls]
    rfl
  have succeeds (advances : ¬ grammar.Stalls parser cursor) :
      ∃ last values, grammar.Succeeds (.many parser) cursor session last values ∧
        values.length ≤ cursor.length - cursor.index := by
    obtain ⟨fuel, last, values, final, repeated, bound⟩ :=
      steady.repeatFrom_returns lies advances [] begun
    refine ⟨last, values, ⟨fuel, final.record last.index (.manyEnd values.length) .succeeded, ?_⟩,
      by rwa [List.length_nil, Nat.zero_add] at bound⟩
    show (Behaviour.repeatFrom (grammar.outcome fuel parser) fuel [] cursor begun).andThen _ = _
    rw [repeated]
    rfl
  constructor
  · apply ReturnsExactly.of_cases
    · intro advances
      obtain ⟨last, values, success, _⟩ := succeeds advances
      exact success.returns
    · exact fun stalls => diverges (not_not.mp stalls)
  · intro last values success
    obtain ⟨last', values', success', bound⟩ :=
      succeeds fun stalls => success.returns.not_diverges (diverges stalls)
    obtain ⟨_, rfl⟩ := success.unique success'
    exact bound

end Steady

/-- A repetition goes on for ever just when its rounds come to a place where a round succeeds
without advancing. Otherwise it returns, and it gives no more values than there are units left to
read. -/
theorem repetition_returns_exactly (steady : grammar.Steady parser input)
    (separatorSteady : grammar.Steady separator input) (lies : cursor.LiesIn input)
    (session : Session signature.Memory) :
    grammar.ReturnsExactly (.many parser) cursor session (¬ grammar.Stalls parser cursor) ∧
    (∀ last values, grammar.Succeeds (.many parser) cursor session last values →
      values.length ≤ cursor.length - cursor.index) ∧
    grammar.ReturnsExactly (.manyOne parser) cursor session
      (grammar.Fails parser cursor session ∨
        ∃ next value, grammar.Succeeds parser cursor session next value ∧
          grammar.Returns (.many parser) next session) ∧
    grammar.ReturnsExactly (.sepBy separator parser) cursor session
      (grammar.Fails parser cursor session ∨
        ∃ next value, grammar.Succeeds parser cursor session next value ∧
          ¬ grammar.Stalls (.chain separator fun _ => parser) next) := by
  obtain ⟨returns, bound⟩ := steady.many lies session
  refine ⟨returns, bound, ?_, ?_⟩
  · have conditions : (grammar.Fails parser cursor session ∨
        ∃ next value, grammar.Succeeds parser cursor session next value ∧
          grammar.Returns (.many parser) next session) ↔
        grammar.Fails parser cursor session ∨
          ∃ next value, grammar.Succeeds parser cursor session next value ∧
            ¬ grammar.Stalls parser next := by
      refine or_congr_right (exists₂_congr fun next value => and_congr_right fun succeeds => ?_)
      have nextLies := (steady.moves cursor session next value lies succeeds).1
      exact (steady.many nextLies session).1.returns
    rw [conditions]
    exact steady.returnsExactly_firstThenRepeat steady lies (fun _ => rfl) fun _ _ => trivial
  · have unfolds (fuel : Nat) := congrFun (congrFun (Behaviour.sepBy_eq fuel
      (grammar.outcome fuel separator) (grammar.outcome fuel parser)) cursor) session
    exact steady.returnsExactly_firstThenRepeat (steady.chain separatorSteady) lies unfolds
      fun _ _ => trivial

theorem succeeds_leaf_iff {wanted : Leaf signature.medium A} :
    grammar.Succeeds (.leaf wanted) cursor session next value ↔
      wanted.read cursor = .success next value := by
  constructor
  · rintro ⟨fuel, final, same⟩
    replace same : Behaviour.leaf wanted cursor session = .success next value final := same
    rw [Behaviour.leaf] at same
    cases read : wanted.read cursor with
    | success reached found =>
        rw [read] at same
        cases same
        rfl
    | failure reason =>
        rw [read] at same
        cases same
    | fault problem =>
        rw [read] at same
        cases same
  · intro read
    refine ⟨0, session.recordSome next.index wanted.operation .succeeded, ?_⟩
    show Behaviour.leaf wanted cursor session = _
    rw [Behaviour.leaf, read]

/-- What a leaf does depends on nothing but the cursor. -/
theorem steady_leaf (grammar : Grammar signature) (wanted : Leaf signature.medium A)
    (addressable : signature.medium.measure input < Cursor.indexBound) :
    grammar.Steady (.leaf wanted) input := by
  have consumes_or_refuses {cursor : Cursor signature.medium} (lies : cursor.LiesIn input) :
      wanted.Consumes cursor ∨ wanted.Refuses cursor :=
    wanted.consumes_or_refuses ⟨lies.within, by rwa [Cursor.length, lies.sameInput]⟩
  constructor
  case returns =>
    intro cursor session lies
    rcases consumes_or_refuses lies with ⟨consumed, _, value, _, _, read⟩ | ⟨kind, message, _, read⟩
    · exact (succeeds_leaf_iff.mpr read).returns
    · refine ⟨0, ?_⟩
      show (Behaviour.leaf wanted cursor session).Returned
      rw [Behaviour.leaf, read]
      trivial
  case pure =>
    intro cursor session session' next value _ succeeds
    exact succeeds_leaf_iff.mpr (succeeds_leaf_iff.mp succeeds)
  case moves =>
    intro cursor session next value lies succeeds
    have read := succeeds_leaf_iff.mp succeeds
    rcases consumes_or_refuses lies with
      ⟨consumed, more, _, unread, _, success⟩ | ⟨kind, message, _, failure⟩
    · cases success.symm.trans read
      have leads := Cursor.leads_past
        ⟨lies.within, by rwa [Cursor.length, lies.sameInput]⟩ unread
      exact ⟨⟨leads.sameInput.trans lies.sameInput, leads.within⟩, leads.forward⟩
    · cases failure.symm.trans read

end

end Grammar

namespace Tokens

/-- An item without a width is repeated for ever, unless the separators between the items
advance. -/
theorem empty_literal_repetition :
    grammar.Steady (.leaf (.literal "")) "aab".toList ∧
    grammar.Steady (.leaf (.literal "a")) "aab".toList ∧
    (Cursor.ofText "aab").LiesIn "aab".toList ∧
      grammar.Diverges (.many (.leaf (.literal ""))) (.ofText "aab") (.initial ()) ∧
      grammar.Returns (.sepBy (.leaf (.literal "a")) (.leaf (.literal ""))) (.ofText "aab")
        (.initial ()) ∧
      ¬ grammar.Stalls (.chain (.leaf (.literal "a")) fun _ => .leaf (.literal ""))
        (.ofText "aab") := by
  have addressable : Medium.text.measure "aab".toList < Cursor.indexBound := by decide
  have item := Grammar.steady_leaf grammar (.literal "") addressable
  have separator := Grammar.steady_leaf grammar (.literal "a") addressable
  have lies : (Cursor.ofText "aab").LiesIn "aab".toList := ⟨rfl, Nat.zero_le _⟩
  have stays : grammar.Succeeds (.leaf (.literal "")) (.ofText "aab") (.initial ()) (.ofText "aab")
      "" := Grammar.succeeds_leaf_iff.mpr rfl
  have stalls : grammar.Stalls (.leaf (.literal "")) (.ofText "aab") :=
    ⟨_, _, .refl, ⟨_, _, stays⟩, rfl⟩
  have returns : grammar.Returns (.sepBy (.leaf (.literal "a")) (.leaf (.literal "")))
      (.ofText "aab") (.initial ()) := ⟨3, by exact trivial⟩
  obtain ⟨many, _, _, sepBy⟩ :=
    Grammar.repetition_returns_exactly item separator lies (Session.initial ())
  refine ⟨item, separator, lies, many.diverges.mpr (not_not.mpr stalls), returns, ?_⟩
  rcases sepBy.returns.mp returns with fails | ⟨next, value, succeeds, advances⟩
  · exact absurd fails stays.not_fails
  · obtain ⟨rfl, _⟩ := stays.unique succeeds
    exact advances

end Tokens

end ParserCombinators
