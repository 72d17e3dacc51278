/-
This file shows that parsers over well-formed grammars return. What is left to read is counted
first, then the depth of calls on the left.
-/

import ParserCombinators.Proofs.Safety

namespace ParserCombinators

variable {medium : Medium} {Memory A B : Type}

theorem Outcome.resolve_ne_unfinished {outcome : Outcome medium Memory A}
    (finished : outcome ≠ .unfinished)
    {succeeded : Cursor medium → A → Session Memory → Outcome medium Memory B}
    {failed : Failure → Session Memory → Outcome medium Memory B}
    (onSuccess : ∀ cursor value session, outcome = .success cursor value session →
      succeeded cursor value session ≠ .unfinished)
    (onFailure : ∀ reason session, failed reason session ≠ .unfinished) :
    outcome.resolve succeeded failed ≠ .unfinished := by
  cases outcome with
  | unfinished => exact absurd rfl finished
  | fault problem => nofun
  | failure reason session => exact onFailure reason session
  | success cursor value session => exact onSuccess cursor value session rfl

/-- The behaviour finishes wherever fewer elements than the limit are left to read. -/
def Behaviour.Finishes (limit : Nat) (behaviour : Behaviour medium Memory A) : Prop :=
  ∀ cursor, cursor.Valid → cursor.rest.length < limit → ∀ session,
    behaviour cursor session ≠ .unfinished

namespace Behaviour.Finishes

variable {limit : Nat} {blame : Blame medium} {mayStay mayStay' : Prop}
  {first : Behaviour medium Memory A}

theorem mono (finishes : first.Finishes limit) {smaller : Nat} (lower : smaller ≤ limit) :
    first.Finishes smaller := by
  intro cursor valid short session
  exact finishes cursor valid (by omega) session

theorem none : first.Finishes 0 := by
  intro cursor _ short
  omega

theorem leaf (leaf : Leaf medium A) :
    (Behaviour.leaf leaf : Behaviour medium Memory A).Finishes limit := by
  intro cursor _ _ session
  rw [Behaviour.leaf]
  cases leaf.read cursor with
  | success next value => simp
  | failure reason => simp
  | fault problem => simp

theorem function (run : Cursor medium → Memory → Reading medium A × Memory) :
    (Behaviour.function run).Finishes limit := by
  intro cursor _ _ session
  rw [Behaviour.function]
  rcases run cursor session.memory with ⟨reading, memory⟩
  cases reading with
  | success next value => simp
  | failure reason => simp
  | fault problem => simp

theorem succeed (value : A) :
    (Behaviour.succeed value : Behaviour medium Memory A).Finishes limit := by
  intro cursor _ _ session
  nofun

theorem fail (reason : Failure) :
    (Behaviour.fail reason : Behaviour medium Memory A).Finishes limit := by
  intro cursor _ _ session
  nofun

theorem announce (finishes : first.Finishes limit) (operation : Operation) :
    (Behaviour.announce operation first).Finishes limit := by
  intro cursor valid short session
  exact finishes cursor valid short _

theorem map (finishes : first.Finishes limit) (convert : A → B) :
    (Behaviour.map convert first).Finishes limit := by
  intro cursor valid short session
  apply Outcome.resolve_ne_unfinished (finishes cursor valid short session)
  · nofun
  · nofun

theorem mapError (finishes : first.Finishes limit) (convert : Failure → Failure) :
    (Behaviour.mapError convert first).Finishes limit := by
  intro cursor valid short session
  apply Outcome.resolve_ne_unfinished (finishes cursor valid short session)
  · nofun
  · nofun

theorem label (finishes : first.Finishes limit) (name : String) :
    (Behaviour.label name first).Finishes limit := by
  intro cursor valid short session
  have handled : (Behaviour.announce (.label name) first cursor (session.labelled name)).orElse
      (fun cause session => Behaviour.failRecorded (.label name)
        (ruleFailure name cursor.index cause) cursor session) ≠ .unfinished := by
    apply Outcome.resolve_ne_unfinished (finishes cursor valid short _)
    · nofun
    · nofun
  apply Outcome.resolve_ne_unfinished handled
  · nofun
  · nofun

theorem parseAs {parser : Behaviour medium Memory String} (finishes : parser.Finishes limit)
    (reader : Reader A) : (Behaviour.parseAs reader parser).Finishes limit := by
  intro cursor valid short session
  apply Outcome.resolve_ne_unfinished (finishes cursor valid short session)
  · intro next text final _
    cases reader.read text with
    | none => nofun
    | some value => nofun
  · nofun

theorem fresh (finishes : first.Finishes limit) (memory : Memory) :
    (Behaviour.fresh memory first).Finishes limit := by
  intro cursor valid short session
  apply Outcome.resolve_ne_unfinished (finishes cursor valid short _)
  · nofun
  · nofun

theorem optional (finishes : first.Finishes limit) :
    (Behaviour.optional first).Finishes limit := by
  intro cursor valid short session
  apply Outcome.resolve_ne_unfinished (finishes.map some cursor valid short session)
  · nofun
  · nofun

/-- What follows the first parser has less to read, unless the first parser may stay. -/
theorem resolve (safe : first.Safe blame mayStay) (finishes : first.Finishes (limit + 1))
    {next : A → Behaviour medium Memory B}
    {failed : Cursor medium → Failure → Session Memory → Outcome medium Memory B}
    (moved : ∀ value, (next value).Finishes limit)
    (stayed : mayStay → ∀ value, (next value).Finishes (limit + 1))
    (onFailure : ∀ cursor reason session, failed cursor reason session ≠ .unfinished) :
    Finishes (limit + 1) fun cursor session => (first cursor session).resolve
      (fun middle value session => next value middle session) (failed cursor) := by
  intro cursor valid short session
  apply Outcome.resolve_ne_unfinished (finishes cursor valid short session)
  · intro middle value final success
    obtain ⟨leads, stays⟩ := (safe cursor valid session).of_success success
    by_cases same : middle.index = cursor.index
    · have remaining := leads.rest_length_le
      exact stayed (stays same) value middle (leads.valid valid) (by omega) final
    · have remaining := leads.rest_length_lt same
      exact moved value middle (leads.valid valid) (by omega) final
  · exact onFailure cursor

theorem chain (safe : first.Safe blame mayStay) (finishes : first.Finishes (limit + 1))
    {next : A → Behaviour medium Memory B} (moved : ∀ value, (next value).Finishes limit)
    (stayed : mayStay → ∀ value, (next value).Finishes (limit + 1)) :
    (Behaviour.chain first next).Finishes (limit + 1) :=
  finishes.resolve safe moved stayed nofun

theorem ap {applied : Behaviour medium Memory (A → B)} {argument : Behaviour medium Memory A}
    (safe : applied.Safe blame mayStay) (finishes : applied.Finishes (limit + 1))
    (moved : argument.Finishes limit) (stayed : mayStay → argument.Finishes (limit + 1)) :
    (Behaviour.ap applied argument).Finishes (limit + 1) :=
  finishes.chain safe (fun convert => moved.map convert) fun stays convert =>
    (stayed stays).map convert

/-- All parts before a later part may stay when the first one may and those between them may. -/
theorem stays_before_succ {count : Nat} {partMayStay : Fin (count + 1) → Prop}
    (stays : partMayStay 0) {part : Fin count} (before : ∀ earlier < part, partMayStay earlier.succ)
    (earlier : Fin (count + 1)) (isEarlier : earlier < part.succ) : partMayStay earlier := by
  cases earlier using Fin.cases with
  | zero => exact stays
  | succ earlier => exact before earlier (Fin.succ_lt_succ_iff.mp isEarlier)

/-- A part has less to read than the tuple, unless all parts before it may stay. -/
theorem tuple {types : List Type}
    {parts : (part : Fin types.length) → Behaviour medium Memory (types.get part)}
    {partMayStay : Fin types.length → Prop}
    (safe : ∀ part, (parts part).Safe blame (partMayStay part))
    (moved : ∀ part, (parts part).Finishes limit)
    (stayed : ∀ part, (∀ earlier < part, partMayStay earlier) →
      (parts part).Finishes (limit + 1)) :
    (Behaviour.tuple parts).Finishes (limit + 1) := by
  induction types generalizing limit with
  | nil => exact succeed ()
  | cons A types inductionHypothesis =>
      have othersMoved : (Behaviour.tuple fun part => parts part.succ).Finishes limit := by
        cases limit with
        | zero => exact none
        | succ limit =>
            apply inductionHypothesis fun part => safe part.succ
            · exact fun part => (moved part.succ).mono (Nat.le_succ limit)
            · exact fun part _ => moved part.succ
      have begins := stayed ⟨0, Nat.succ_pos _⟩ nofun
      apply begins.chain (safe ⟨0, Nat.succ_pos _⟩)
      · exact fun _ => othersMoved.map _
      · intro stays value
        apply map
        apply inductionHypothesis (fun part => safe part.succ) fun part => moved part.succ
        intro part before
        exact stayed part.succ (stays_before_succ stays before)

theorem row {count : Nat} {parts : Fin count → Behaviour medium Memory A}
    {partMayStay : Fin count → Prop} (safe : ∀ part, (parts part).Safe blame (partMayStay part))
    (moved : ∀ part, (parts part).Finishes limit)
    (stayed : ∀ part, (∀ earlier < part, partMayStay earlier) →
      (parts part).Finishes (limit + 1)) :
    (Behaviour.row (List.ofFn parts)).Finishes (limit + 1) := by
  induction count generalizing limit with
  | zero =>
      rw [List.ofFn_zero]
      exact succeed []
  | succ count inductionHypothesis =>
      rw [List.ofFn_succ, Behaviour.row_cons]
      have othersMoved :
          (Behaviour.row (List.ofFn fun part => parts part.succ)).Finishes limit := by
        cases limit with
        | zero => exact none
        | succ limit =>
            apply inductionHypothesis fun part => safe part.succ
            · exact fun part => (moved part.succ).mono (Nat.le_succ limit)
            · exact fun part _ => moved part.succ
      have begins := stayed 0 fun _ isEarlier => absurd isEarlier (Fin.not_lt_zero _)
      apply begins.chain (safe 0)
      · exact fun _ => othersMoved.map _
      · intro stays value
        apply map
        apply inductionHypothesis (fun part => safe part.succ) fun part => moved part.succ
        intro part before
        exact stayed part.succ (stays_before_succ stays before)

/-- All alternatives begin at the same cursor. -/
theorem attempt {count : Nat} {alternatives : Fin count → Behaviour medium Memory A}
    (finishes : ∀ index, (alternatives index).Finishes limit) (failures : List Failure) :
    (Behaviour.attempt failures (List.ofFn alternatives)).Finishes limit := by
  induction count generalizing failures with
  | zero =>
      rw [List.ofFn_zero]
      nofun
  | succ count inductionHypothesis =>
      rw [List.ofFn_succ]
      intro cursor valid short session
      apply Outcome.resolve_ne_unfinished (finishes 0 cursor valid short session)
      · nofun
      · intro reason final
        have others := inductionHypothesis (fun index => finishes index.succ) (failures ++ [reason])
        exact others cursor valid short final

/-- Every round leaves less to read, so there are at most as many rounds as elements. -/
theorem repeatFrom (safe : first.Safe blame mayStay) (moves : ¬ mayStay)
    (finishes : first.Finishes limit) {fuel : Nat} (enough : limit ≤ fuel) (values : List A) :
    (Behaviour.repeatFrom first fuel values).Finishes limit := by
  induction fuel generalizing limit values with
  | zero => exact none.mono enough
  | succ fuel inductionHypothesis =>
      intro cursor valid short session
      apply Outcome.resolve_ne_unfinished (finishes cursor valid short session)
      · intro next value final success
        obtain ⟨leads, stays⟩ := (safe cursor valid session).of_success success
        have remaining := leads.rest_length_lt fun same => moves (stays same)
        have later := inductionHypothesis (finishes.mono (Nat.le_of_lt short)) (by omega)
          (value :: values)
        exact later next (leads.valid valid) remaining final
      · nofun

theorem recordCount {parser : Behaviour medium Memory (List A)} (finishes : parser.Finishes limit)
    (operation : Nat → Operation) : (Behaviour.recordCount operation parser).Finishes limit := by
  intro cursor valid short session
  apply Outcome.resolve_ne_unfinished (finishes cursor valid short session)
  · nofun
  · nofun

theorem many (safe : first.Safe blame mayStay) (moves : ¬ mayStay)
    (finishes : first.Finishes limit) {fuel : Nat} (enough : limit ≤ fuel) :
    (Behaviour.many fuel first).Finishes limit :=
  ((finishes.repeatFrom safe moves enough []).recordCount _).announce _

theorem manyOne (safe : first.Safe blame mayStay) (moves : ¬ mayStay)
    (finishes : first.Finishes (limit + 1)) {fuel : Nat} (enough : limit ≤ fuel) :
    (Behaviour.manyOne fuel first).Finishes (limit + 1) := by
  apply announce
  apply finishes.resolve safe
  · intro value
    have repeated := (finishes.mono (Nat.le_succ limit)).repeatFrom safe moves enough [value]
    exact repeated.recordCount _
  · exact fun stays => absurd stays moves
  · nofun

/-- The separator has less to read than the first item, unless an item may stay. -/
theorem sepBy {separator : Behaviour medium Memory B} {item : Behaviour medium Memory A}
    (safe : separator.Safe blame mayStay) (itemSafe : item.Safe blame mayStay')
    (moves : ¬ (mayStay ∧ mayStay')) (finishes : separator.Finishes limit)
    (stayed : mayStay' → separator.Finishes (limit + 1)) (itemFinishes : item.Finishes (limit + 1))
    {fuel : Nat} (enough : limit < fuel) :
    (Behaviour.sepBy fuel separator item).Finishes (limit + 1) := by
  have stepSafe := safe.chain fun _ => itemSafe
  have stepMoves : ¬ (mayStay ∧ ∃ _ : B, mayStay') :=
    fun ⟨separatorStays, _, itemStays⟩ => moves ⟨separatorStays, itemStays⟩
  have stepFinishes : ∀ {bound : Nat}, separator.Finishes bound → bound ≤ limit + 1 →
      (Behaviour.separated separator item).Finishes bound := by
    intro bound finishes lower
    cases bound with
    | zero => exact none
    | succ bound =>
        apply finishes.chain safe
        · exact fun _ => itemFinishes.mono (by omega)
        · exact fun _ _ => itemFinishes.mono lower
  rw [Behaviour.sepBy_eq]
  apply announce
  apply itemFinishes.resolve itemSafe
  · intro value
    have step := stepFinishes finishes (Nat.le_succ limit)
    exact (step.repeatFrom stepSafe stepMoves (Nat.le_of_lt enough) [value]).recordCount _
  · intro stays value
    have step := stepFinishes (stayed stays) (Nat.le_refl _)
    exact (step.repeatFrom stepSafe stepMoves enough [value]).recordCount _
  · nofun

end Behaviour.Finishes

end ParserCombinators
