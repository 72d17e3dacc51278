/-
This file gives the rules by which combinators ensure what their parts ensure at a cursor.
-/

import ParserCombinators.Parser.Basic
import ParserCombinators.Proofs.Outcome
import ParserCombinators.Proofs.Reading

namespace ParserCombinators

variable {medium : Medium} {Memory A B C : Type}

/-- Whatever the session, a success at this cursor is as stated, and a failure tells something. -/
def Behaviour.Ensures (behaviour : Behaviour medium Memory A) (cursor : Cursor medium)
    (succeeded : Cursor medium → A → Prop) (failed : Prop) : Prop :=
  ∀ session, (behaviour cursor session).Ensures (fun next value _ => succeeded next value)
    fun _ _ => failed

namespace Behaviour.Ensures

variable {first : Behaviour medium Memory A} {cursor : Cursor medium}
  {succeeded succeeded' : Cursor medium → A → Prop} {after : Cursor medium → B → Prop}
  {failed failed' : Prop}

theorem imp (ensures : first.Ensures cursor succeeded failed)
    (weaker : ∀ next value, succeeded next value → succeeded' next value)
    (weakerFailed : failed → failed') : first.Ensures cursor succeeded' failed' := by
  intro session
  exact (ensures session).imp (fun next value _ => weaker next value) fun _ _ => weakerFailed

/-- A behaviour that never fails has succeeded as soon as it has ended. -/
theorem exists_success (ensures : first.Ensures cursor succeeded False) {session : Session Memory}
    (finished : first cursor session ≠ .unfinished) :
    ∃ next value final, first cursor session = .success next value final ∧
      succeeded next value := by
  have holds := ensures session
  rcases (holds.returned finished).success_or_failure with
    ⟨next, value, final, same⟩ | ⟨reason, final, same⟩
  · exact ⟨next, value, final, same, holds.of_success same⟩
  · exact (holds.of_failure same).elim

theorem leaf_of_success {wanted : Leaf medium A} {next : Cursor medium} {value : A}
    (read : wanted.read cursor = .success next value) (holds : succeeded next value) :
    (Behaviour.leaf wanted : Behaviour medium Memory A).Ensures cursor succeeded failed := by
  intro session
  rw [Behaviour.leaf, read]
  exact holds

theorem leaf_of_failure {wanted : Leaf medium A} {reason : Failure}
    (read : wanted.read cursor = .failure reason) (holds : failed) :
    (Behaviour.leaf wanted : Behaviour medium Memory A).Ensures cursor succeeded failed := by
  intro session
  rw [Behaviour.leaf, read]
  exact holds

section

variable {Element : Type} {render : Element → String} {cursor : Cursor (.slice Element render)}

/-- One accepted element is read. -/
theorem satisfy (valid : cursor.Valid) (description : String) (accepts : Element → Bool) :
    (Behaviour.leaf (.satisfy description accepts) : Behaviour _ Memory Element).Ensures cursor
      (fun next element => ∃ more, cursor.rest = element :: more ∧ accepts element = true ∧
        next = cursor.past [element])
      (∀ element ∈ cursor.rest.head?, accepts element = false) := by
  cases unread : cursor.rest with
  | nil =>
      have refused : ∀ element ∈ cursor.rest.head?, accepts element = false := by
        rw [unread]
        nofun
      obtain ⟨message, read⟩ := Leaf.read_satisfy_of_refuses description accepts refused
      exact leaf_of_failure read nofun
  | cons element more =>
      cases accepted : accepts element with
      | true =>
          have read := Leaf.read_satisfy_of_accepts valid description accepts unread accepted
          exact leaf_of_success read ⟨more, rfl, accepted, rfl⟩
      | false =>
          have refused : ∀ found ∈ cursor.rest.head?, accepts found = false := by
            rw [unread]
            rintro _ ⟨⟩
            exact accepted
          obtain ⟨message, read⟩ := Leaf.read_satisfy_of_refuses description accepts refused
          rw [unread] at refused
          exact leaf_of_failure read refused

/-- Just as many elements as are wanted are read. -/
theorem take (valid : cursor.Valid) (count : Nat) :
    (Behaviour.leaf (.take count) : Behaviour _ Memory (List Element)).Ensures cursor
      (fun next taken => ∃ more, cursor.rest = taken ++ more ∧ taken.length = count ∧
        next = cursor.past taken)
      (cursor.rest.length < count) := by
  by_cases short : cursor.rest.length < count
  · obtain ⟨reason, read⟩ := Leaf.read_take_of_short short
    exact leaf_of_failure read short
  · have split := (List.take_append_drop count cursor.rest).symm
    have length : (cursor.rest.take count).length = count :=
      List.length_take_of_le (Nat.le_of_not_lt short)
    have read := Leaf.read_take_of_append valid split
    rw [length] at read
    exact leaf_of_success read ⟨_, split, length, rfl⟩

end

/-- The expected text is read as a whole. -/
theorem literal {cursor : Cursor .text} (valid : cursor.Valid) (expected : String) :
    (Behaviour.leaf (.literal expected) : Behaviour .text Memory String).Ensures cursor
      (fun next value => value = expected ∧ ∃ text, cursor.rest = expected.toList ++ text ∧
        next = cursor.past expected.toList)
      (¬ expected.toList <+: cursor.rest) := by
  cases begins : expected.toList.isPrefixOf cursor.rest with
  | true =>
      obtain ⟨text, unread⟩ := List.isPrefixOf_iff_prefix.mp begins
      have read : (Leaf.literal expected).read cursor =
          .success (cursor.past expected.toList) (String.ofList expected.toList) := by
        simp only [Leaf.read, Leaf.readLiteral, begins, ↓reduceIte]
        exact Reading.consume_eq_success valid unread.symm String.ofList
      exact leaf_of_success read ⟨String.ofList_toList, text, unread.symm, rfl⟩
  | false =>
      have read : ∃ reason, (Leaf.literal expected).read cursor = .failure reason := by
        simp only [Leaf.read, Leaf.readLiteral, begins, Bool.false_eq_true, ↓reduceIte]
        exact ⟨_, rfl⟩
      obtain ⟨reason, read⟩ := read
      refine leaf_of_failure read fun begun => ?_
      rw [List.isPrefixOf_iff_prefix.mpr begun] at begins
      exact Bool.noConfusion begins

theorem succeed {value : A} (holds : succeeded cursor value) :
    (Behaviour.succeed value : Behaviour medium Memory A).Ensures cursor succeeded failed := by
  intro session
  exact holds

theorem announce (ensures : first.Ensures cursor succeeded failed) (operation : Operation) :
    (Behaviour.announce operation first).Ensures cursor succeeded failed := by
  intro session
  exact ensures _

theorem chain (ensures : first.Ensures cursor succeeded failed)
    {next : A → Behaviour medium Memory B}
    (nextEnsures : ∀ middle value, succeeded middle value →
      (next value).Ensures middle after failed) :
    (Behaviour.chain first next).Ensures cursor after failed := by
  intro session
  apply (ensures session).andThen
  intro middle value later holds
  exact nextEnsures middle value holds later

theorem map {convert : A → B}
    (ensures : first.Ensures cursor (fun next value => after next (convert value)) failed) :
    (Behaviour.map convert first).Ensures cursor after failed :=
  ensures.chain fun _ _ holds => succeed holds

theorem label (ensures : first.Ensures cursor succeeded failed) (name : String) :
    (Behaviour.label name first).Ensures cursor succeeded failed := by
  intro session
  apply Outcome.Ensures.mapSession
  apply (ensures _).orElse
  intro _ _ holds
  exact holds

/-- The parsed text is either read or refused. -/
theorem parseAs {parser : Behaviour medium Memory String} {reader : Reader A}
    {parsed : Cursor medium → String → Prop} (ensures : parser.Ensures cursor parsed failed)
    (accepted : ∀ next text value, parsed next text → reader.read text = some value →
      succeeded next value)
    (refused : ∀ next text, parsed next text → reader.read text = none → failed) :
    (Behaviour.parseAs reader parser).Ensures cursor succeeded failed := by
  intro session
  apply (ensures session).andThen
  intro next text later holds
  cases read : reader.read text with
  | some value => exact accepted next text value holds read
  | none => exact refused next text holds read

/-- A failure leaves the cursor where it is. -/
theorem optional {succeeded : Cursor medium → Option A → Prop}
    (ensures : first.Ensures cursor (fun next value => succeeded next (some value)) failed)
    (absent : failed → succeeded cursor none) :
    (Behaviour.optional first).Ensures cursor succeeded False := by
  intro session
  apply (ensures.map session).orElse
  intro _ _ holds
  exact absent holds

/-- A later alternative is tried when the first one has failed. -/
theorem attempt_cons {others : List (Behaviour medium Memory A)}
    (ensures : first.Ensures cursor succeeded failed)
    (othersEnsure : failed → ∀ failures,
      (Behaviour.attempt failures others).Ensures cursor succeeded failed')
    (failures : List Failure) :
    (Behaviour.attempt failures (first :: others)).Ensures cursor succeeded failed' := by
  intro session
  apply (ensures session).orElse
  intro reason later holds
  exact othersEnsure holds (failures ++ [reason]) later

theorem attempt_nil (holds : failed) (failures : List Failure) :
    (Behaviour.attempt failures ([] : List (Behaviour medium Memory A))).Ensures cursor succeeded
      failed := by
  intro session
  exact holds

/-- A round either goes on or ends the repetition. -/
theorem repeatFrom_succ {fuel : Nat} {values : List A}
    {repeated : Cursor medium → List A → Prop} (ensures : first.Ensures cursor succeeded failed)
    (goesOn : ∀ next value, succeeded next value →
      (Behaviour.repeatFrom first fuel (value :: values)).Ensures next repeated False)
    (ends : failed → repeated cursor values.reverse) :
    (Behaviour.repeatFrom first (fuel + 1) values).Ensures cursor repeated False := by
  intro session
  apply (ensures session).resolve
  · intro next value later holds
    exact goesOn next value holds later
  · intro _ later holds
    exact ends holds

/-- A repetition whose rounds lead on leads on as well, and it never fails. -/
theorem repeatFrom_leads
    (leadsOn : ∀ cursor : Cursor medium, cursor.Ready →
      first.Ensures cursor (fun next _ => cursor.Leads next) True)
    (fuel : Nat) (ready : cursor.Ready) (values : List A) :
    (Behaviour.repeatFrom first fuel values).Ensures cursor (fun next _ => cursor.Leads next)
      False := by
  induction fuel generalizing cursor values with
  | zero =>
      intro session
      trivial
  | succ fuel inductionHypothesis =>
      apply (leadsOn cursor ready).repeatFrom_succ
      · intro next value leads
        refine (inductionHypothesis (leads.ready ready) (value :: values)).imp ?_ id
        intro last _ further
        exact leads.trans further
      · intro _
        exact .refl ready.toValid

theorem recordCount {parser : Behaviour medium Memory (List A)}
    {succeeded : Cursor medium → List A → Prop} (ensures : parser.Ensures cursor succeeded failed)
    (operation : Nat → Operation) :
    (Behaviour.recordCount operation parser).Ensures cursor succeeded failed :=
  ensures.chain fun _ _ holds _ => holds

theorem many {succeeded : Cursor medium → List A → Prop} {fuel : Nat}
    (ensures : (Behaviour.repeatFrom first fuel []).Ensures cursor succeeded False) :
    (Behaviour.many fuel first).Ensures cursor succeeded False :=
  (ensures.recordCount _).announce _

/-- Without a first item there are no items. -/
theorem sepBy {separator : Behaviour medium Memory B} {fuel : Nat}
    {repeated : Cursor medium → List A → Prop} (ensures : first.Ensures cursor succeeded failed)
    (goesOn : ∀ next value, succeeded next value →
      (Behaviour.repeatFrom (Behaviour.separated separator first) fuel [value]).Ensures next
        repeated False)
    (absent : failed → repeated cursor []) :
    (Behaviour.sepBy fuel separator first).Ensures cursor repeated False := by
  rw [Behaviour.sepBy_eq]
  apply announce
  intro session
  apply (ensures session).resolve
  · intro next value later holds
    exact (goesOn next value holds).recordCount _ later
  · intro _ later holds
    exact absent holds

end Behaviour.Ensures

namespace Parser

variable {signature : Signature} {A B C : Type} {failed : Prop}
  {call : (rule : signature.Rule) →
    Behaviour signature.medium signature.Memory (signature.result rule)}
  {fuel : Nat} {cursor : Cursor signature.medium}

/-- The second parser goes on where the first one has succeeded. -/
theorem behaviour_pair (first : Parser signature A) (second : Parser signature B)
    (session : Session signature.Memory) :
    (pair first second).behaviour call fuel cursor session =
      (first.behaviour call fuel cursor
        (session.record cursor.index (.sequence 2) .began)).andThen fun middle value session =>
          (second.behaviour call fuel middle session).andThen fun last other session =>
            .success last (value, other) session := by
  show Behaviour.map _ (Behaviour.announce _ (Behaviour.chain (first.behaviour call fuel) _)) _ _ =
    _
  rw [Behaviour.map, Behaviour.announce, Behaviour.chain]
  cases first.behaviour call fuel cursor _ with
  | unfinished => rfl
  | fault problem => rfl
  | failure reason final => rfl
  | success middle value final =>
      show ((Behaviour.map _ (Behaviour.chain (second.behaviour call fuel) _) _ _).andThen _) =
        (second.behaviour call fuel middle final).andThen _
      rw [Behaviour.map, Behaviour.chain]
      cases second.behaviour call fuel middle final with
      | unfinished => rfl
      | fault problem => rfl
      | failure reason final => rfl
      | success last other final => rfl

/-- The content goes on where the left parser has succeeded, and the right parser behind it. -/
theorem behaviour_between (left : Parser signature A) (right : Parser signature B)
    (content : Parser signature C) (session : Session signature.Memory) :
    (between left right content).behaviour call fuel cursor session =
      (left.behaviour call fuel cursor
        (session.record cursor.index (.sequence 3) .began)).andThen fun first _ session =>
          (content.behaviour call fuel first session).andThen fun second value session =>
            (right.behaviour call fuel second session).andThen fun last _ session =>
              .success last value session := by
  show Behaviour.map _ (Behaviour.announce _ (Behaviour.chain (left.behaviour call fuel) _)) _ _ = _
  rw [Behaviour.map, Behaviour.announce, Behaviour.chain]
  cases left.behaviour call fuel cursor _ with
  | unfinished => rfl
  | fault problem => rfl
  | failure reason final => rfl
  | success first value final =>
      show ((Behaviour.map _ (Behaviour.chain (content.behaviour call fuel) _) _ _).andThen _) =
        (content.behaviour call fuel first final).andThen _
      rw [Behaviour.map, Behaviour.chain]
      cases content.behaviour call fuel first final with
      | unfinished => rfl
      | fault problem => rfl
      | failure reason final => rfl
      | success second value final =>
          show (((Behaviour.map _ (Behaviour.chain (right.behaviour call fuel) _) _ _).andThen
            _).andThen _) = (right.behaviour call fuel second final).andThen _
          rw [Behaviour.map, Behaviour.chain]
          cases right.behaviour call fuel second final with
          | unfinished => rfl
          | fault problem => rfl
          | failure reason final => rfl
          | success last other final => rfl

theorem ensures_pair {first : Parser signature A} {second : Parser signature B}
    {middle : Cursor signature.medium → A → Prop}
    {succeeded : Cursor signature.medium → A × B → Prop}
    (firstEnsures : (first.behaviour call fuel).Ensures cursor middle failed)
    (secondEnsures : ∀ next value, middle next value →
      (second.behaviour call fuel).Ensures next (fun last other => succeeded last (value, other))
        failed) :
    ((pair first second).behaviour call fuel).Ensures cursor succeeded failed := by
  apply Behaviour.Ensures.map
  apply Behaviour.Ensures.announce
  apply firstEnsures.chain
  intro next value holds
  apply Behaviour.Ensures.map
  apply (secondEnsures next value holds).chain
  intro last other holds
  apply Behaviour.Ensures.map
  exact Behaviour.Ensures.succeed holds

/-- Only the value of the content is kept. -/
theorem ensures_between {left : Parser signature A} {right : Parser signature B}
    {content : Parser signature C} {opened : Cursor signature.medium → Prop}
    {filled succeeded : Cursor signature.medium → C → Prop}
    (leftEnsures : (left.behaviour call fuel).Ensures cursor (fun next _ => opened next) failed)
    (contentEnsures : ∀ next, opened next →
      (content.behaviour call fuel).Ensures next filled failed)
    (rightEnsures : ∀ next value, filled next value →
      (right.behaviour call fuel).Ensures next (fun last _ => succeeded last value) failed) :
    ((between left right content).behaviour call fuel).Ensures cursor succeeded failed := by
  apply Behaviour.Ensures.map
  apply Behaviour.Ensures.announce
  apply leftEnsures.chain
  intro next _ holds
  apply Behaviour.Ensures.map
  apply (contentEnsures next holds).chain
  intro inner value holds
  apply Behaviour.Ensures.map
  apply (rightEnsures inner value holds).chain
  intro last _ holds
  apply Behaviour.Ensures.map
  exact Behaviour.Ensures.succeed holds

/-- The second alternative is tried where the first one has failed. -/
theorem ensures_choiceOf_two {first second : Parser signature A}
    {succeeded : Cursor signature.medium → A → Prop} {firstFailed : Prop}
    (firstEnsures : (first.behaviour call fuel).Ensures cursor succeeded firstFailed)
    (secondEnsures : firstFailed → (second.behaviour call fuel).Ensures cursor succeeded failed) :
    ((choiceOf [first, second]).behaviour call fuel).Ensures cursor succeeded failed := by
  apply Behaviour.Ensures.announce
  have attempted : (Behaviour.attempt []
      [first.behaviour call fuel, second.behaviour call fuel]).Ensures cursor succeeded failed := by
    apply firstEnsures.attempt_cons
    intro holds failures
    apply (secondEnsures holds).attempt_cons
    exact Behaviour.Ensures.attempt_nil
  exact attempted

end Parser

end ParserCombinators
