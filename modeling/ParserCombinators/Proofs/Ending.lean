/-
This file says how a parse ends when there is no limit on fuel: it succeeds, fails or diverges.
-/

import ParserCombinators.Parser.Fuel
import ParserCombinators.Proofs.Likeness

namespace ParserCombinators.Grammar

variable {signature : Signature} {A : Type}

/-- With enough fuel the parse succeeds at this cursor with this value. -/
def Succeeds (grammar : Grammar signature) (parser : Parser signature A)
    (cursor : Cursor signature.medium) (session : Session signature.Memory)
    (next : Cursor signature.medium) (value : A) : Prop :=
  ∃ fuel final, grammar.outcome fuel parser cursor session = .success next value final

/-- With enough fuel the parse fails. -/
def Fails (grammar : Grammar signature) (parser : Parser signature A)
    (cursor : Cursor signature.medium) (session : Session signature.Memory) : Prop :=
  ∃ fuel reason final, grammar.outcome fuel parser cursor session = .failure reason final

/-- With enough fuel the parse fails for this reason. -/
def FailsWith (grammar : Grammar signature) (parser : Parser signature A)
    (cursor : Cursor signature.medium) (session : Session signature.Memory) (reason : Failure) :
    Prop :=
  ∃ fuel final, grammar.outcome fuel parser cursor session = .failure reason final

/-- No amount of fuel lets the parse end. -/
def Diverges (grammar : Grammar signature) (parser : Parser signature A)
    (cursor : Cursor signature.medium) (session : Session signature.Memory) : Prop :=
  ∀ fuel, grammar.outcome fuel parser cursor session = .unfinished

section

variable {grammar : Grammar signature} {parser : Parser signature A}
  {cursor : Cursor signature.medium} {session : Session signature.Memory}

/-- Two amounts of fuel that are both enough give the same outcome. -/
theorem outcome_eq_of_finished (fuel fuel' : Nat)
    (finished : grammar.outcome fuel parser cursor session ≠ .unfinished)
    (finished' : grammar.outcome fuel' parser cursor session ≠ .unfinished) :
    grammar.outcome fuel parser cursor session = grammar.outcome fuel' parser cursor session := by
  rcases Nat.le_total fuel fuel' with less | less
  · exact (grammar.outcome_eq_of_le less parser cursor session finished).symm
  · exact grammar.outcome_eq_of_le less parser cursor session finished'

/-- A parse has at most one success. -/
theorem Succeeds.unique {next next' : Cursor signature.medium} {value value' : A}
    (succeeds : grammar.Succeeds parser cursor session next value)
    (succeeds' : grammar.Succeeds parser cursor session next' value') :
    next = next' ∧ value = value' := by
  obtain ⟨fuel, final, same⟩ := succeeds
  obtain ⟨fuel', final', same'⟩ := succeeds'
  have agree := outcome_eq_of_finished fuel fuel'
    (by rw [same]; nofun) (by rw [same']; nofun)
  rw [same, same'] at agree
  cases agree
  exact ⟨rfl, rfl⟩

/-- A parse fails for at most one reason. -/
theorem FailsWith.unique {reason reason' : Failure}
    (fails : grammar.FailsWith parser cursor session reason)
    (fails' : grammar.FailsWith parser cursor session reason') : reason = reason' := by
  obtain ⟨fuel, final, same⟩ := fails
  obtain ⟨fuel', final', same'⟩ := fails'
  have agree := outcome_eq_of_finished fuel fuel'
    (by rw [same]; nofun) (by rw [same']; nofun)
  rw [same, same'] at agree
  cases agree
  rfl

/-- A parse that fails does not diverge. -/
theorem FailsWith.not_diverges {reason : Failure}
    (fails : grammar.FailsWith parser cursor session reason) :
    ¬ grammar.Diverges parser cursor session := by
  intro diverges
  obtain ⟨fuel, final, same⟩ := fails
  rw [diverges fuel] at same
  cases same

theorem FailsWith.fails {reason : Failure}
    (fails : grammar.FailsWith parser cursor session reason) :
    grammar.Fails parser cursor session := by
  obtain ⟨fuel, final, same⟩ := fails
  exact ⟨fuel, reason, final, same⟩

/-- A parse that succeeds does not fail. -/
theorem Succeeds.not_fails {next : Cursor signature.medium} {value : A}
    (succeeds : grammar.Succeeds parser cursor session next value) :
    ¬ grammar.Fails parser cursor session := by
  rintro ⟨fuel', reason, final', same'⟩
  obtain ⟨fuel, final, same⟩ := succeeds
  have agree := outcome_eq_of_finished fuel fuel'
    (by rw [same]; nofun) (by rw [same']; nofun)
  rw [same, same'] at agree
  cases agree

end

section

variable {likeness : Likeness signature.medium} {grammar grammar' : Grammar signature}
  {parser parser' : Parser signature A} {cursor cursor' : Cursor signature.medium}
  {session session' : Session signature.Memory}

theorem succeeds_of_alike
    (alike : ∀ fuel, (grammar.outcome fuel parser cursor session).Alike likeness
      (grammar'.outcome fuel parser' cursor' session'))
    {next : Cursor signature.medium} {value : A}
    (succeeds : grammar.Succeeds parser cursor session next value) :
    ∃ next', likeness.cursors next next' ∧
      grammar'.Succeeds parser' cursor' session' next' value := by
  obtain ⟨fuel, final, same⟩ := succeeds
  have both := alike fuel
  rw [same] at both
  generalize same' : grammar'.outcome fuel parser' cursor' session' = outcome' at both
  cases both with
  | success nexts value memories => exact ⟨_, nexts, fuel, _, same'⟩

/-- Parses that are alike and end at the same cursors succeed together. -/
theorem succeeds_iff_of_alike
    (sameCursors : ∀ next next', likeness.cursors next next' → next = next')
    (alike : ∀ fuel, (grammar.outcome fuel parser cursor session).Alike likeness
      (grammar'.outcome fuel parser' cursor' session'))
    {next : Cursor signature.medium} {value : A} :
    grammar.Succeeds parser cursor session next value ↔
      grammar'.Succeeds parser' cursor' session' next value := by
  constructor
  · intro succeeds
    obtain ⟨next', nexts, succeeds'⟩ := succeeds_of_alike alike succeeds
    obtain rfl := sameCursors next next' nexts
    exact succeeds'
  · intro succeeds'
    obtain ⟨next', nexts, succeeds⟩ :=
      succeeds_of_alike (fun fuel => (alike fuel).flip) succeeds'
    obtain rfl := sameCursors next' next nexts
    exact succeeds

/-- Parses that are alike fail for reasons that are alike. -/
theorem failsWith_of_alike
    (alike : ∀ fuel, (grammar.outcome fuel parser cursor session).Alike likeness
      (grammar'.outcome fuel parser' cursor' session'))
    {reason : Failure} (fails : grammar.FailsWith parser cursor session reason) :
    ∃ reason', likeness.failures reason reason' ∧
      grammar'.FailsWith parser' cursor' session' reason' := by
  obtain ⟨fuel, final, same⟩ := fails
  have both := alike fuel
  rw [same] at both
  generalize same' : grammar'.outcome fuel parser' cursor' session' = outcome' at both
  cases both with
  | failure failures memories => exact ⟨_, failures, fuel, _, same'⟩

theorem fails_of_alike
    (alike : ∀ fuel, (grammar.outcome fuel parser cursor session).Alike likeness
      (grammar'.outcome fuel parser' cursor' session'))
    (fails : grammar.Fails parser cursor session) : grammar'.Fails parser' cursor' session' := by
  obtain ⟨fuel, reason, final, same⟩ := fails
  have both := alike fuel
  rw [same] at both
  generalize same' : grammar'.outcome fuel parser' cursor' session' = outcome' at both
  cases both with
  | failure failures memories => exact ⟨fuel, _, _, same'⟩

/-- Parses that are alike fail together. -/
theorem fails_iff_of_alike
    (alike : ∀ fuel, (grammar.outcome fuel parser cursor session).Alike likeness
      (grammar'.outcome fuel parser' cursor' session')) :
    grammar.Fails parser cursor session ↔ grammar'.Fails parser' cursor' session' :=
  ⟨fails_of_alike alike, fails_of_alike fun fuel => (alike fuel).flip⟩

theorem diverges_of_alike
    (alike : ∀ fuel, (grammar.outcome fuel parser cursor session).Alike likeness
      (grammar'.outcome fuel parser' cursor' session'))
    (diverges : grammar.Diverges parser cursor session) :
    grammar'.Diverges parser' cursor' session' := by
  intro fuel
  have both := alike fuel
  rw [diverges fuel] at both
  generalize grammar'.outcome fuel parser' cursor' session' = outcome' at both
  cases both with
  | unfinished => rfl

/-- Parses that are alike diverge together. -/
theorem diverges_iff_of_alike
    (alike : ∀ fuel, (grammar.outcome fuel parser cursor session).Alike likeness
      (grammar'.outcome fuel parser' cursor' session')) :
    grammar.Diverges parser cursor session ↔ grammar'.Diverges parser' cursor' session' :=
  ⟨diverges_of_alike alike, diverges_of_alike fun fuel => (alike fuel).flip⟩

/-- Parses that are alike and never a fault both succeed, or both fail, or both diverge. -/
theorem end_together_of_alike
    (alike : ∀ fuel, (grammar.outcome fuel parser cursor session).Alike likeness
      (grammar'.outcome fuel parser' cursor' session'))
    (noFault : ∀ fuel problem, grammar.outcome fuel parser cursor session ≠ .fault problem) :
    (∃ next next' value, likeness.cursors next next' ∧
        grammar.Succeeds parser cursor session next value ∧
          grammar'.Succeeds parser' cursor' session' next' value) ∨
      (∃ reason reason', likeness.failures reason reason' ∧
        grammar.FailsWith parser cursor session reason ∧
          grammar'.FailsWith parser' cursor' session' reason') ∨
      grammar.Diverges parser cursor session ∧ grammar'.Diverges parser' cursor' session' := by
  by_cases diverges : grammar.Diverges parser cursor session
  · exact .inr (.inr ⟨diverges, diverges_of_alike alike diverges⟩)
  · obtain ⟨fuel, finished⟩ := Classical.not_forall.mp diverges
    have both := alike fuel
    have safe := noFault fuel
    generalize same : grammar.outcome fuel parser cursor session = outcome at both safe finished
    generalize same' : grammar'.outcome fuel parser' cursor' session' = outcome' at both
    cases both with
    | unfinished => exact absurd rfl finished
    | fault problem => exact absurd rfl (safe problem)
    | failure failures memories =>
        exact .inr (.inl ⟨_, _, failures, ⟨fuel, _, same⟩, ⟨fuel, _, same'⟩⟩)
    | success cursors value memories =>
        exact .inl ⟨_, _, value, cursors, ⟨fuel, _, same⟩, ⟨fuel, _, same'⟩⟩

end

end ParserCombinators.Grammar
