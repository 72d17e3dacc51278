/-
This file shows what leaves do. A leaf succeeds behind some of the elements to read or fails where
it began.
-/

import ParserCombinators.Proofs.Movement
import ParserCombinators.Proofs.Pattern.Match

namespace ParserCombinators

/-- Failures of these kinds have no cause. -/
def FailureKind.ofLeaf : FailureKind → Bool
  | .literal => true
  | .pattern => true
  | .choice => false
  | .manyOne => false
  | .rule _ => false
  | .custom _ => true

namespace Leaf

/-- Such a leaf may succeed without reading an element. -/
def MayStay {medium : Medium} {A : Type} : Leaf medium A → Prop
  | .literal expected => expected = ""
  | .pattern wanted => wanted.MatchesEmpty
  | .satisfy _ _ => False
  | .take count => count = 0

/-- A leaf reads some elements and gives a value. -/
def Consumes {medium : Medium} {A : Type} (leaf : Leaf medium A) (cursor : Cursor medium) : Prop :=
  ∃ consumed more value, cursor.rest = consumed ++ more ∧ (consumed = [] → leaf.MayStay) ∧
    leaf.read cursor = .success (cursor.past consumed) value

/-- A leaf fails where it stands. -/
def Refuses {medium : Medium} {A : Type} (leaf : Leaf medium A) (cursor : Cursor medium) : Prop :=
  ∃ kind message, kind.ofLeaf = true ∧
    leaf.read cursor = .failure (.newAt kind message cursor.index)

/-- A pattern matches some of the elements to read. -/
theorem exists_unread_of_matchFrom {wanted : Pattern} {cursor : Cursor .text}
    {span : Pattern.Span} (found : wanted.matchFrom cursor.input cursor.index = some span) :
    ∃ consumed more, cursor.rest = consumed ++ more ∧
      span = ⟨cursor.index, cursor.index + Medium.measure .text consumed⟩ := by
  obtain ⟨input, index⟩ := cursor
  obtain ⟨first, consumed, more, rfl, rfl, same⟩ := Pattern.matchFrom_eq_some found
  exact ⟨consumed, more, @Cursor.rest_append .text first (consumed ++ more), same⟩

/-- As many elements as are wanted measure just their number. -/
theorem measure_take_rest {Element : Type} {render : Element → String} {count : Nat}
    {cursor : Cursor (.slice Element render)} (enough : ¬ cursor.rest.length < count) :
    Medium.measure (.slice Element render) (cursor.rest.take count) = count := by
  rw [Medium.measure_slice, List.length_take]
  omega

theorem literal_consumes_or_refuses (expected : String) {cursor : Cursor .text}
    (valid : cursor.Valid) :
    (literal expected).Consumes cursor ∨ (literal expected).Refuses cursor := by
  cases begins : expected.toList.isPrefixOf cursor.rest with
  | true =>
      obtain ⟨more, same⟩ := List.isPrefixOf_iff_prefix.mp begins
      refine .inl ⟨expected.toList, more, String.ofList expected.toList, same.symm, ?_, ?_⟩
      · exact String.toList_eq_nil_iff.mp
      · simp only [read, readLiteral, begins, ↓reduceIte]
        exact Reading.consume_eq_success valid same.symm String.ofList
  | false =>
      refine .inr ⟨.literal, ?message, rfl, ?failed⟩
      case failed =>
        simp only [read, readLiteral, begins, Bool.false_eq_true, ↓reduceIte]
        rfl

theorem pattern_consumes_or_refuses (wanted : Pattern) {cursor : Cursor .text}
    (valid : cursor.Valid) :
    (pattern wanted).Consumes cursor ∨ (pattern wanted).Refuses cursor := by
  cases found : wanted.matchFrom cursor.input cursor.index with
  | none =>
      refine .inr ⟨.pattern, ?message, rfl, ?failed⟩
      case failed =>
        simp only [read, readPattern, found]
        rfl
  | some span =>
      obtain ⟨consumed, more, unread, rfl⟩ := exists_unread_of_matchFrom found
      refine .inl ⟨consumed, more, String.ofList consumed, unread, ?_, ?_⟩
      · rintro rfl
        exact ⟨_, _, found⟩
      · simp only [read, readPattern, found, Nat.add_sub_cancel_left]
        exact Reading.consume_eq_success valid unread String.ofList

section

variable {Element : Type} {render : Element → String}

variable {cursor : Cursor (.slice Element render)}

/-- An accepted element is read. -/
theorem read_satisfy_of_accepts (valid : cursor.Valid) (description : String)
    (accepts : Element → Bool) {element : Element} {more : List Element}
    (unread : cursor.rest = element :: more) (accepted : accepts element = true) :
    (satisfy description accepts).read cursor = .success (cursor.past [element]) element := by
  have found : cursor.peek.filter accepts = some element := by
    rw [Cursor.peek, unread, List.head?_cons, Option.filter_some, if_pos accepted]
  have unread' : cursor.rest = [element] ++ more := unread
  simp only [read, readSatisfy, found]
  exact Reading.consume_eq_success valid unread' fun _ => element

/-- Where no accepted element stands, the failure has the kind of the description. -/
theorem read_satisfy_of_refuses (description : String) (accepts : Element → Bool)
    (refused : ∀ element ∈ cursor.rest.head?, accepts element = false) :
    ∃ message, (satisfy description accepts).read cursor =
      .failure (.newAt (.custom description) message cursor.index) := by
  have found : cursor.peek.filter accepts = none := by
    rw [Cursor.peek, Option.filter_eq_none_iff]
    simpa using refused
  simp only [read, readSatisfy, found]
  exact ⟨_, rfl⟩

/-- As many elements as are wanted are taken. -/
theorem read_take_of_append (valid : cursor.Valid) {taken more : List Element}
    (unread : cursor.rest = taken ++ more) :
    (take taken.length).read cursor = .success (cursor.past taken) taken := by
  have enough : ¬ cursor.rest.length < taken.length := by
    rw [unread, List.length_append]
    omega
  have consumed := Reading.consume_eq_success valid unread id
  rw [Medium.measure_slice] at consumed
  simp only [read, readTake, enough, ↓reduceIte]
  exact consumed

theorem read_take_of_short {count : Nat} (short : cursor.rest.length < count) :
    ∃ message, (take count : Leaf (.slice Element render) (List Element)).read cursor =
      .failure (.newAt (.custom "take") message cursor.index) := by
  simp only [read, readTake, short, ↓reduceIte]
  exact ⟨_, rfl⟩

theorem satisfy_consumes_or_refuses (description : String) (accepts : Element → Bool)
    (valid : cursor.Valid) :
    (satisfy description accepts).Consumes cursor ∨
      (satisfy description accepts).Refuses cursor := by
  cases found : cursor.peek.filter accepts with
  | none =>
      have refused : ∀ element ∈ cursor.rest.head?, accepts element = false := by
        simpa [Cursor.peek] using found
      obtain ⟨message, read⟩ := read_satisfy_of_refuses description accepts refused
      exact .inr ⟨.custom description, message, rfl, read⟩
  | some element =>
      obtain ⟨isHead, accepted⟩ := Option.filter_eq_some_iff.mp found
      obtain ⟨more, unread⟩ := List.head?_eq_some_iff.mp isHead
      have read := read_satisfy_of_accepts valid description accepts unread accepted
      exact .inl ⟨[element], more, element, unread, by simp, read⟩

theorem take_consumes_or_refuses (count : Nat) (valid : cursor.Valid) :
    (take count : Leaf (.slice Element render) (List Element)).Consumes cursor ∨
      (take count : Leaf (.slice Element render) (List Element)).Refuses cursor := by
  by_cases short : cursor.rest.length < count
  · obtain ⟨message, read⟩ := read_take_of_short short
    exact .inr ⟨.custom "take", message, rfl, read⟩
  · have split := (List.take_append_drop count cursor.rest).symm
    have length : (cursor.rest.take count).length = count :=
      List.length_take_of_le (Nat.le_of_not_lt short)
    have read := read_take_of_append valid split
    rw [length] at read
    refine .inl ⟨cursor.rest.take count, _, cursor.rest.take count, split, ?_, read⟩
    intro nothing
    rw [nothing] at length
    exact length.symm

end

/-- There is no third way for a leaf. -/
theorem consumes_or_refuses {medium : Medium} {A : Type} (leaf : Leaf medium A)
    {cursor : Cursor medium} (valid : cursor.Valid) :
    leaf.Consumes cursor ∨ leaf.Refuses cursor := by
  cases leaf with
  | literal expected => exact literal_consumes_or_refuses expected valid
  | pattern wanted => exact pattern_consumes_or_refuses wanted valid
  | satisfy description accepts => exact satisfy_consumes_or_refuses description accepts valid
  | take count => exact take_consumes_or_refuses count valid

end Leaf

end ParserCombinators
