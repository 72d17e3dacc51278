/-
This file shows that reading records undoes writing them. Reading goes on while a complete record
follows, and then a zero byte must follow.
-/

import ParserCombinators.Grammar.Records
import ParserCombinators.Proofs.GrammarTermination
import ParserCombinators.Proofs.Words

namespace ParserCombinators.Records

open ParserCombinators.Parser

/-- A record is written as the length of its payload and the payload. -/
def encode (payload : List UInt8) : List UInt8 := UInt8.ofNat payload.length :: payload

/-- The length of such a payload is a byte other than zero. -/
structure IsPayload (payload : List UInt8) : Prop where
  filled : 1 ≤ payload.length
  short : payload.length ≤ 255

/-- The bytes are these records and a rest, which does not begin with another complete record. -/
structure Decomposes (bytes : List UInt8) (payloads : List (List UInt8)) (rest : List UInt8) :
    Prop where
  written : bytes = payloads.flatMap encode ++ rest
  payloads : ∀ payload ∈ payloads, IsPayload payload
  maximal : ∀ payload more, IsPayload payload → rest ≠ encode payload ++ more

/-- The words are the records that are not empty. -/
def vocabulary : Vocabulary UInt8 (List UInt8) := ⟨encode, fun payload _ => IsPayload payload⟩

theorem decomposes_iff {bytes rest : List UInt8} {payloads : List (List UInt8)} :
    Decomposes bytes payloads rest ↔ vocabulary.Splits bytes payloads rest := by
  have words : vocabulary.Splits bytes payloads rest ↔ _ :=
    Vocabulary.Splits.iff_written fun _ _ => Iff.rfl
  rw [words]
  constructor
  · rintro ⟨written, allPayloads, maximal⟩
    exact ⟨written, allPayloads, fun payload more begins =>
      maximal payload more begins.allowed begins.written⟩
  · rintro ⟨written, allPayloads, noWord⟩
    exact ⟨written, allPayloads, fun payload more isPayload same =>
      noWord payload more ⟨same, isPayload⟩⟩

theorem not_begins_nil (payload rest : List UInt8) : ¬ vocabulary.Begins [] payload rest :=
  fun begins => nomatch begins.written

/-- The first byte of a record is the length of the payload that follows it. -/
theorem begins_cons_iff {byte : UInt8} {text payload rest : List UInt8} :
    vocabulary.Begins (byte :: text) payload rest ↔
      byte ≠ 0 ∧ payload.length = byte.toNat ∧ text = payload ++ rest := by
  constructor
  · rintro ⟨written, filled, short⟩
    obtain ⟨rfl, rfl⟩ := List.cons.inj written
    have length : (UInt8.ofNat payload.length).toNat = payload.length :=
      UInt8.toNat_ofNat_of_lt (Nat.lt_succ_of_le short)
    refine ⟨fun zero => ?_, length.symm, rfl⟩
    rw [zero] at length
    exact absurd length (Nat.ne_of_lt filled)
  · rintro ⟨nonzero, length, rfl⟩
    have bound := byte.toNat_lt
    have positive : byte.toNat ≠ 0 := fun zero => nonzero (UInt8.toNat_inj.mp zero)
    refine ⟨?_, by omega, by omega⟩
    show byte :: (payload ++ rest) = UInt8.ofNat payload.length :: (payload ++ rest)
    rw [length, UInt8.ofNat_toNat]

theorem unambiguous : vocabulary.Unambiguous where
  unique := by
    intro text rest rest' payload payload' begins begins'
    cases text with
    | nil => exact absurd begins (not_begins_nil payload rest)
    | cons byte text =>
        obtain ⟨_, length, written⟩ := begins_cons_iff.mp begins
        obtain ⟨_, length', written'⟩ := begins_cons_iff.mp begins'
        exact (List.append_inj (written.symm.trans written') (length.trans length'.symm)).1
  nonempty := fun _ => List.cons_ne_nil _ _

/-- A record that is not empty. -/
def filledRecord : Parser signature (List UInt8) := chain (byte "length" (· != 0)) payload

variable {call : (rule : Empty) → Behaviour .bytes Unit Unit} {fuel : Nat}

/-- A record is read when it is complete and not empty. -/
theorem reads_filledRecord : (filledRecord.behaviour call fuel).ReadsWord vocabulary id := by
  intro cursor ready
  have length : ((byte "length" (· != 0)).behaviour call fuel).Ensures cursor
      (fun next found => ∃ text, cursor.rest = found :: text ∧ found ≠ 0 ∧
        next = cursor.past [found])
      (∀ payload rest, ¬ vocabulary.Begins cursor.rest payload rest) := by
    refine (Behaviour.Ensures.satisfy ready.toValid "length" (· != 0)).imp ?_ ?_
    · rintro next found ⟨text, unread, accepted, rfl⟩
      exact ⟨text, unread, bne_iff_ne.mp accepted, rfl⟩
    · intro refused payload rest begins
      cases unread : cursor.rest with
      | nil => exact not_begins_nil payload rest (unread ▸ begins)
      | cons found text =>
          rw [unread] at begins refused
          have zero := bne_eq_false_iff_eq.mp (refused found rfl)
          exact (begins_cons_iff.mp begins).1 zero
  apply length.chain
  rintro middle found ⟨text, unread, nonzero, rfl⟩
  have split : cursor.rest = [found] ++ text := unread
  have behind := Cursor.rest_past split
  refine (Behaviour.Ensures.take (ready.past split).toValid found.toNat).imp ?_ ?_
  · rintro next payload ⟨rest, same, count, rfl⟩
    have begins : vocabulary.Begins cursor.rest payload rest := by
      rw [unread, begins_cons_iff]
      exact ⟨nonzero, count, behind.symm.trans same⟩
    refine ⟨payload, rest, begins, ?_, rfl⟩
    have written : encode payload = [found] ++ payload := by
      rw [encode, count, UInt8.ofNat_toNat, List.singleton_append]
    rw [Cursor.past_past, ← written]
    rfl
  · intro short payload rest begins
    rw [unread, begins_cons_iff] at begins
    rw [behind, begins.2.2, List.length_append] at short
    omega

/-- No rule is called, and each round reads at least the length. -/
theorem outcome_many_finishes (bytes : List UInt8) :
    (grammar.outcome (Records.fuel bytes) (many filledRecord)).Finishes (bytes.length + 1) := by
  have moves : ¬ filledRecord.Nullable grammar := fun nullable =>
    nullable_iff.mp (nullable_iff.mp nullable).1
  have productive : (many filledRecord).Productive grammar :=
    ⟨moves, trivial, trivial, fun _ => trivial⟩
  have lawful : (many filledRecord).Lawful := ⟨trivial, trivial, trivial, fun _ => trivial⟩
  have rulesLawful : grammar.Lawful := fun rule : Empty => rule.elim
  have rulesProductive : ∀ rule, (grammar rule).Productive grammar := fun rule : Empty => rule.elim
  have noCalls : ∀ rule called, ¬ grammar.CallsLeft rule called := fun rule : Empty => rule.elim
  exact Grammar.outcome_finishes_of_noCalls rulesLawful rulesProductive noCalls lawful productive
    (fun rule : Empty => rule.elim) (Nat.lt_succ_self _)

section

variable {bytes rest : List UInt8} {payloads : List (List UInt8)}
  (addressable : bytes.length < Cursor.indexBound) (decomposes : Decomposes bytes payloads rest)

include addressable in
theorem ready_start : (Cursor.start bytes : Cursor .bytes).Ready := by
  apply Cursor.ready_start
  rw [Medium.measure_slice]
  exact addressable

include addressable decomposes

/-- All records of the decomposition are read. -/
theorem exists_many_success (session : Session Unit) :
    ∃ final, (many filledRecord).behaviour (grammar.call (Records.fuel bytes)) (Records.fuel bytes)
        (.start bytes) session =
      .success ⟨bytes, (payloads.flatMap encode).length⟩ payloads final := by
  have ready := ready_start addressable
  have valid := ready.toValid
  have reads : (filledRecord.behaviour (grammar.call (Records.fuel bytes))
      (Records.fuel bytes)).ReadsWord vocabulary id := reads_filledRecord
  have repeated := (reads.repeatFrom (Records.fuel bytes) ready []).many
  have finished := outcome_many_finishes bytes (.start bytes) valid
    (by rw [Cursor.rest_start]; exact Nat.lt_succ_self _) session
  obtain ⟨next, all, final, success, found, more, splits, rfl, rfl⟩ :=
    repeated.exists_success finished
  rw [Cursor.rest_start] at splits
  obtain ⟨rfl, rfl⟩ := splits.unique unambiguous (decomposes_iff.mp decomposes)
  rw [Cursor.past_start, Medium.measure_slice, List.map_id, List.reverse_nil,
    List.nil_append] at success
  exact ⟨final, success⟩

/-- Behind the records only the terminator is left to read. -/
theorem exists_readRecords_eq :
    ∃ session, readRecords bytes =
      (Behaviour.leaf (.satisfy "terminator" (· == 0))
        ⟨bytes, (payloads.flatMap encode).length⟩ session).andThen fun last _ final =>
          .success last payloads final := by
  obtain ⟨final, success⟩ := exists_many_success addressable decomposes
    ((Session.initial ()).record (Cursor.start bytes : Cursor .bytes).index (.sequence 2) .began)
  refine ⟨final, ?_⟩
  show Behaviour.map Prod.fst ((pair (many filledRecord) (byte "terminator" (· == 0))).behaviour
    (grammar.call (Records.fuel bytes)) (Records.fuel bytes)) (.start bytes) (.initial ()) = _
  rw [Behaviour.map, behaviour_pair, success]
  show ((Behaviour.leaf (.satisfy "terminator" (· == 0)) _ final).andThen _).andThen _ = _
  cases (Behaviour.leaf (.satisfy "terminator" (· == 0))
    ⟨bytes, (payloads.flatMap encode).length⟩ final : Outcome .bytes Unit UInt8) with
  | unfinished => rfl
  | fault problem => rfl
  | failure reason session => rfl
  | success last value session => rfl

/-- The cursor behind the records is ready to read the rest. -/
theorem ready_behind_records :
    (⟨bytes, (payloads.flatMap encode).length⟩ : Cursor .bytes).Ready ∧
      (⟨bytes, (payloads.flatMap encode).length⟩ : Cursor .bytes).rest = rest := by
  have ready := ready_start addressable
  have unread : (Cursor.start bytes : Cursor .bytes).rest = payloads.flatMap encode ++ rest := by
    rw [Cursor.rest_start]
    exact decomposes.written
  have place : (Cursor.start bytes : Cursor .bytes).past (payloads.flatMap encode) =
      ⟨bytes, (payloads.flatMap encode).length⟩ := by
    rw [Cursor.past_start, Medium.measure_slice]
  rw [← place]
  exact ⟨ready.past unread, Cursor.rest_past unread⟩

/-- A zero byte behind the records is read as well. -/
theorem readRecords_of_zero {more : List UInt8} (zero : rest = 0 :: more) :
    ∃ final, readRecords bytes =
      .success ⟨bytes, (payloads.flatMap encode).length + 1⟩ payloads final := by
  obtain ⟨session, same⟩ := exists_readRecords_eq addressable decomposes
  obtain ⟨ready, unread⟩ := ready_behind_records addressable decomposes
  rw [zero] at unread
  have read := Leaf.read_satisfy_of_accepts ready.toValid "terminator" (· == 0) unread rfl
  rw [same, Behaviour.leaf, read]
  exact ⟨_, rfl⟩

/-- Without a zero byte behind the records reading fails there. -/
theorem readRecords_of_nonzero (nonzero : rest.head? ≠ some 0) :
    ∃ message final, readRecords bytes =
      .failure (.newAt (.custom "terminator") message (payloads.flatMap encode).length) final := by
  obtain ⟨session, same⟩ := exists_readRecords_eq addressable decomposes
  obtain ⟨ready, unread⟩ := ready_behind_records addressable decomposes
  have refused : ∀ found ∈ (⟨bytes, (payloads.flatMap encode).length⟩ : Cursor .bytes).rest.head?,
      (found == 0) = false := by
    rw [unread]
    rintro found member
    exact beq_eq_false_iff_ne.mpr fun zero => nonzero (zero ▸ member)
  obtain ⟨message, read⟩ := Leaf.read_satisfy_of_refuses "terminator" (· == 0) refused
  rw [same, Behaviour.leaf, read]
  exact ⟨message, _, rfl⟩

end

/-- Every input is made up in one way of records and of a rest that begins with no record. -/
theorem existsUnique_decomposes (bytes : List UInt8) :
    ∃! parts : List (List UInt8) × List UInt8, Decomposes bytes parts.1 parts.2 := by
  obtain ⟨payloads, rest, splits⟩ := unambiguous.exists_splits bytes
  refine ⟨(payloads, rest), decomposes_iff.mpr splits, ?_⟩
  rintro ⟨others, otherRest⟩ decomposes
  obtain ⟨rfl, rfl⟩ := (decomposes_iff.mp decomposes).unique unambiguous splits
  rfl

/-- A zero byte begins no record. -/
theorem decomposes_append_zero {payloads : List (List UInt8)}
    (allPayloads : ∀ payload ∈ payloads, IsPayload payload) (trailing : List UInt8) :
    Decomposes (payloads.flatMap encode ++ 0 :: trailing) payloads (0 :: trailing) where
  written := rfl
  payloads := allPayloads
  maximal _ _ isPayload same := (begins_cons_iff.mp ⟨same, isPayload⟩).1 rfl

/-- Reading gives back the records that the input is made of. It ends behind a zero byte or fails
where this byte is missing. So it undoes writing records with a zero byte behind them, and only such
inputs are read. -/
theorem readRecords_undoes_encode {bytes : List UInt8}
    (addressable : bytes.length < Cursor.indexBound) :
    (∃! parts : List (List UInt8) × List UInt8, Decomposes bytes parts.1 parts.2) ∧
      (∀ payloads rest, Decomposes bytes payloads rest →
        (rest.head? = some 0 → ∃ final, readRecords bytes =
          .success ⟨bytes, (payloads.flatMap encode).length + 1⟩ payloads final) ∧
        (rest.head? ≠ some 0 → ∃ message final, readRecords bytes =
          .failure (.newAt (.custom "terminator") message (payloads.flatMap encode).length)
            final)) ∧
      (∀ payloads trailing, (∀ payload ∈ payloads, IsPayload payload) →
        bytes = payloads.flatMap encode ++ 0 :: trailing → ∃ final, readRecords bytes =
          .success ⟨bytes, (payloads.flatMap encode).length + 1⟩ payloads final) ∧
      ∀ next payloads final, readRecords bytes = .success next payloads final →
        (∀ payload ∈ payloads, IsPayload payload) ∧
          ∃ trailing, bytes = payloads.flatMap encode ++ 0 :: trailing := by
  refine ⟨existsUnique_decomposes bytes, ?_, ?_, ?_⟩
  · intro payloads rest decomposes
    constructor
    · intro zero
      obtain ⟨more, same⟩ := List.head?_eq_some_iff.mp zero
      exact readRecords_of_zero addressable decomposes same
    · exact readRecords_of_nonzero addressable decomposes
  · rintro payloads trailing allPayloads rfl
    exact readRecords_of_zero addressable (decomposes_append_zero allPayloads trailing) rfl
  · intro next payloads final success
    obtain ⟨⟨found, rest⟩, decomposes, _⟩ := existsUnique_decomposes bytes
    by_cases zero : rest.head? = some 0
    · obtain ⟨more, rfl⟩ := List.head?_eq_some_iff.mp zero
      obtain ⟨session, same⟩ := readRecords_of_zero addressable decomposes rfl
      rw [same] at success
      cases success
      exact ⟨decomposes.payloads, more, decomposes.written⟩
    · obtain ⟨message, session, same⟩ := readRecords_of_nonzero addressable decomposes zero
      rw [same] at success
      cases success

/-- A zero byte in a payload is no terminator. -/
theorem readRecords_undoes_encode_zero_payload :
    [2, 0, 7, 0, 9].length < Cursor.indexBound ∧ IsPayload [0, 7] ∧
      ([2, 0, 7, 0, 9] : List UInt8) = [[0, 7]].flatMap encode ++ 0 :: [9] ∧
        ∃ final, readRecords [2, 0, 7, 0, 9] = .success ⟨[2, 0, 7, 0, 9], 4⟩ [[0, 7]] final := by
  have addressable : ([2, 0, 7, 0, 9] : List UInt8).length < Cursor.indexBound := by decide
  have isPayload : IsPayload [0, 7] := ⟨by decide, by decide⟩
  have written : ([2, 0, 7, 0, 9] : List UInt8) = [[0, 7]].flatMap encode ++ 0 :: [9] := rfl
  have undone := (readRecords_undoes_encode addressable).2.2.1 [[0, 7]] [9]
    (List.forall_mem_singleton.mpr isPayload) written
  exact ⟨addressable, isPayload, written, undone⟩

end ParserCombinators.Records
