/-
This file shows what the column holds. It always has the same width, and a text that fits into it
can be told from every other such text, also behind the index of a cursor.
-/

import ParserCombinators.Cursor
import ParserCombinators.Proofs.Text.Escape

namespace ParserCombinators

open Text

namespace Text

/-- A text fits into the column when all of it is shown. -/
def Fits (text : List Char) : Prop := (text.flatMap shown).length ≤ columnCapacity

instance (text : List Char) : Decidable (Fits text) := inferInstanceAs (Decidable (_ ≤ _))

theorem columnContent_eq (text : List Char) :
    columnContent text = ((text.take columnCapacity).flatMap shown).take columnCapacity := by
  rw [columnContent, bareQuotes_flatMap_escapeAscii]

theorem length_columnContent_le (text : List Char) :
    (columnContent text).length ≤ columnCapacity := by
  rw [columnContent_eq]
  exact List.length_take_le ..

/-- Every character takes up at least one place. -/
theorem length_le_length_flatMap_shown (text : List Char) :
    text.length ≤ (text.flatMap shown).length := by
  induction text with
  | nil => exact Nat.le_refl 0
  | cons character text inductionHypothesis =>
      have positive := List.length_pos_iff.mpr (shownAs_shown character).ne_nil
      rw [List.flatMap_cons, List.length_append, List.length_cons]
      omega

theorem Fits.take_eq {text : List Char} (fits : Fits text) : text.take columnCapacity = text :=
  List.take_of_length_le (Nat.le_trans (length_le_length_flatMap_shown text) fits)

/-- Nothing is cut off from a text that fits. -/
theorem Fits.columnContent_eq {text : List Char} (fits : Fits text) :
    columnContent text = text.flatMap shown := by
  rw [Text.columnContent_eq, fits.take_eq, List.take_of_length_le fits]

theorem toList_column (text : String) :
    (column text).toList = '|' :: columnContent text.toList ++
      '|' :: List.replicate (columnCapacity - (columnContent text.toList).length) ' ' := by
  simp [column, padRight]

theorem length_column (text : String) : (column text).toList.length = columnCapacity + 2 := by
  have within := length_columnContent_le text.toList
  simp only [toList_column, List.cons_append, List.length_cons, List.length_append,
    List.length_replicate]
  omega

theorem column_printable (text : String) :
    ∀ used ∈ (column text).toList, 0x20 ≤ used.toNat ∧ used.toNat ≤ 0x7e := by
  have content : ∀ used ∈ columnContent text.toList, 0x20 ≤ used.toNat ∧ used.toNat ≤ 0x7e := by
    intro used member
    rw [columnContent_eq] at member
    obtain ⟨character, _, isShown⟩ := List.mem_flatMap.mp (List.mem_of_mem_take member)
    exact (shownAs_shown character).printable used isShown
  have bar : 0x20 ≤ '|'.toNat ∧ '|'.toNat ≤ 0x7e := by decide
  rw [toList_column, List.forall_mem_append, List.forall_mem_cons, List.forall_mem_cons]
  refine ⟨⟨bar, content⟩, bar, ?_⟩
  intro used member
  rw [List.eq_of_mem_replicate member]
  decide

/-- Only the blanks that fill the column are taken away. -/
theorem toList_columnTrimmed (text : String) :
    (columnTrimmed text).toList = '|' :: columnContent text.toList ++ ['|'] := by
  have blank : isWhiteSpace ' ' = true := by decide
  have bar : ¬ isWhiteSpace '|' = true := by decide
  have blanks (count : Nat) : ∀ used ∈ List.replicate count ' ', isWhiteSpace used = true := by
    intro used member
    rw [List.eq_of_mem_replicate member]
    exact blank
  rw [columnTrimmed, String.toList_ofList, toList_column, List.reverse_append, List.reverse_cons,
    List.reverse_replicate, List.append_assoc, List.dropWhile_append_of_pos (blanks _),
    List.singleton_append, List.dropWhile_cons_of_neg bar]
  simp

/-- Texts that fit are told apart by what the column shows. -/
theorem Fits.eq_of_columnTrimmed {text text' : String} (fits : Fits text.toList)
    (fits' : Fits text'.toList) (same : columnTrimmed text = columnTrimmed text') :
    text = text' := by
  have lists := congrArg String.toList same
  rw [toList_columnTrimmed, toList_columnTrimmed] at lists
  have contents := (List.cons.inj (List.append_cancel_right lists)).2
  rw [fits.columnContent_eq, fits'.columnContent_eq] at contents
  exact String.toList_inj.mp (flatMap_shown_injective contents)

end Text

namespace Cursor

theorem toList_summary (cursor : Cursor .text) :
    cursor.summary.toList = Nat.toDigits 10 cursor.index ++
      ':' :: (columnTrimmed (cursor.preview columnCapacity)).toList := by
  simp [summary]

/-- A rest that fits is previewed in full. -/
theorem preview_eq_of_fits {cursor : Cursor .text} (fits : Fits cursor.rest) :
    cursor.preview columnCapacity = String.ofList cursor.rest := by
  rw [preview, Medium.preview, fits.take_eq]

/-- The summary determines the index and a rest that fits. -/
theorem eq_of_summary {first second : Cursor .text} (fits : Fits first.rest)
    (fits' : Fits second.rest) (same : first.summary = second.summary) :
    first.index = second.index ∧ first.rest = second.rest := by
  have noColon (index : Nat) : ':' ∉ Nat.toDigits 10 index := by
    intro member
    cases Nat.isDigit_of_mem_toDigits (by decide) (by decide) member
  have lists := congrArg String.toList same
  rw [toList_summary, toList_summary] at lists
  obtain ⟨digits, columns⟩ := append_cons_inj (noColon _) (noColon _) lists
  rw [preview_eq_of_fits fits, preview_eq_of_fits fits', String.toList_inj] at columns
  have texts : String.ofList first.rest = String.ofList second.rest :=
    Fits.eq_of_columnTrimmed (by simpa using fits) (by simpa using fits') columns
  exact ⟨toDigits_injective (by decide) (by decide) digits, String.ofList_injective texts⟩

end Cursor

namespace Text

/-- The column has a fixed width and holds printable characters of ASCII only. Between its bars
stand the first characters of the text, each shown by itself, as far as there is room. A text that
fits is determined by its column, and so are the index and the rest of a cursor by its summary. -/
theorem column_shows_text :
    (∀ text : String, (column text).toList.length = 35 ∧
      (∀ used ∈ (column text).toList, 0x20 ≤ used.toNat ∧ used.toNat ≤ 0x7e) ∧
      (column text).toList =
        '|' :: ((text.toList.take 33).flatMap shown).take 33 ++
          '|' :: List.replicate (33 - (((text.toList.take 33).flatMap shown).take 33).length) ' ') ∧
      (∀ text : List Char, bareQuotes (text.flatMap escapeAscii) = text.flatMap shown) ∧
      (∀ text text' : String, Fits text.toList → Fits text'.toList → column text = column text' →
        text = text') ∧
      ∀ first second : Cursor .text, Fits first.rest → Fits second.rest →
        first.summary = second.summary → first.index = second.index ∧ first.rest = second.rest := by
  refine ⟨?_, bareQuotes_flatMap_escapeAscii, ?_, ?_⟩
  · intro text
    refine ⟨length_column text, column_printable text, ?_⟩
    have content := columnContent_eq text.toList
    rw [columnCapacity] at content
    rw [← content]
    exact toList_column text
  · intro text text' fits fits' same
    have trimmed : columnTrimmed text = columnTrimmed text' := by
      rw [columnTrimmed, columnTrimmed, same]
    exact fits.eq_of_columnTrimmed fits' trimmed
  · intro first second fits fits' same
    exact Cursor.eq_of_summary fits fits' same

/-- A backslash in front of a quote keeps its place in the column, and so the quote alone is shown
in another way. -/
theorem column_tells_backslash_from_quote :
    let marked : Cursor .text := .ofText "a\\\"b"
    let bare : Cursor .text := .ofText "a\"b"
    Fits marked.rest ∧ Fits bare.rest ∧
      (column "a\\\"b").toList = "|a\\\\\"b|".toList ++ List.replicate 28 ' ' ∧
      column "a\\\"b" ≠ column "a\"b" ∧ marked.summary ≠ bare.summary := by
  intro marked bare
  have fits : Fits marked.rest := by decide
  have fits' : Fits bare.rest := by decide
  obtain ⟨law, _, columns, summaries⟩ := column_shows_text
  refine ⟨fits, fits', ?_, ?_, ?_⟩
  · rw [(law _).2.2]
    decide
  · intro same
    exact absurd (columns _ _ fits fits' same) (by decide)
  · intro same
    exact absurd (summaries marked bare fits fits' same).2 (by decide)

end Text

end ParserCombinators
