/-
This file shows what is left of an escaped text when its quotes lose their backslashes. Each
character is shown by itself, whatever stands beside it, and no two texts are shown alike.
-/

import ParserCombinators.Proofs.Words
import ParserCombinators.Text.Column

namespace ParserCombinators.Text

/-- Tabs, line ends and the backslash are shown by a backslash and one more character. Anything else
in printable ASCII is shown as it is, both quotes included, and other characters are shown by their
code points. -/
def shown (character : Char) : List Char :=
  if character = '\t' then ['\\', 't']
  else if character = '\r' then ['\\', 'r']
  else if character = '\n' then ['\\', 'n']
  else if character = '\\' then ['\\', '\\']
  else if 0x20 ≤ character.toNat ∧ character.toNat ≤ 0x7e then [character]
  else unicodeEscape character

/-- Some characters are left bare and all others are escaped. -/
def escapeExcept (bare : List Char) (character : Char) : List Char :=
  if character ∈ bare then [character] else escapeAscii character

/-- What stands in front of the first mark is determined, and so is what stands behind it. -/
theorem append_cons_inj {mark : Char} {first first' rest rest' : List Char} (absent : mark ∉ first)
    (absent' : mark ∉ first') (same : first ++ mark :: rest = first' ++ mark :: rest') :
    first = first' ∧ rest = rest' := by
  induction first generalizing first' with
  | nil =>
      cases first' with
      | nil => exact ⟨rfl, (List.cons.inj same).2⟩
      | cons character first' => simp [(List.cons.inj same).1] at absent'
  | cons character first inductionHypothesis =>
      cases first' with
      | nil => simp [(List.cons.inj same).1] at absent
      | cons character' first' =>
          obtain ⟨sameCharacter, same⟩ := List.cons.inj same
          obtain ⟨sameFirst, sameRest⟩ :=
            inductionHypothesis (absent <| .tail _ ·) (absent' <| .tail _ ·) same
          exact ⟨by rw [sameCharacter, sameFirst], sameRest⟩

theorem digitChar_injective {amount amount' : Nat} (small : amount < 16) (small' : amount' < 16)
    (same : amount.digitChar = amount'.digitChar) : amount = amount' := by
  have all : ∀ amount < 16, ∀ amount' < 16,
      Nat.digitChar amount = Nat.digitChar amount' → amount = amount' := by decide
  exact all amount small amount' small' same

/-- The last digit stands behind the digits of the quotient. -/
theorem toDigits_eq_append {base : Nat} (large : 1 < base) (value : Nat) :
    Nat.toDigits base value = (if value < base then [] else Nat.toDigits base (value / base)) ++
      [(value % base).digitChar] := by
  rw [Nat.toDigits_eq_if large]
  split
  next small => rw [Nat.mod_eq_of_lt small, List.nil_append]
  next => rfl

theorem exists_digitChar_of_mem_toDigits {base value : Nat} (large : 1 < base) {digit : Char}
    (member : digit ∈ Nat.toDigits base value) : ∃ amount < base, digit = amount.digitChar := by
  induction value using Nat.strongRecOn with
  | ind value inductionHypothesis =>
      rw [toDigits_eq_append large, List.mem_append, List.mem_singleton] at member
      rcases member with earlier | last
      · split at earlier
        next => cases earlier
        next notSmall =>
          exact inductionHypothesis _ (Nat.div_lt_self (by omega) large) earlier
      · exact ⟨value % base, Nat.mod_lt _ (by omega), last⟩

/-- Up to base sixteen every value has digits of its own. -/
theorem toDigits_injective {base : Nat} (large : 1 < base) (small : base ≤ 16) {value value' : Nat}
    (same : Nat.toDigits base value = Nat.toDigits base value') : value = value' := by
  induction value using Nat.strongRecOn generalizing value' with
  | ind value inductionHypothesis =>
      have below (value : Nat) : value % base < 16 := by
        have := Nat.mod_lt value (show 0 < base by omega)
        omega
      rw [toDigits_eq_append large value, toDigits_eq_append large value'] at same
      obtain ⟨earlier, last⟩ := List.append_inj' same rfl
      have remainders := digitChar_injective (below value) (below value') (List.cons.inj last).1
      have quotients : value / base = value' / base := by
        split at earlier <;> split at earlier
        next isSmall isSmall' => rw [Nat.div_eq_of_lt isSmall, Nat.div_eq_of_lt isSmall']
        next => exact absurd earlier.symm Nat.toDigits_ne_nil
        next => exact absurd earlier Nat.toDigits_ne_nil
        next notSmall _ =>
          exact inductionHypothesis _ (Nat.div_lt_self (by omega) large) earlier
      rw [← Nat.div_add_mod value base, quotients, remainders, Nat.div_add_mod]

/-- Another character than a digit is in no value. -/
theorem not_mem_toDigits {character : Char}
    (noDigit : ∀ amount < 16, character ≠ Nat.digitChar amount) (value : Nat) :
    character ∉ Nat.toDigits 16 value := by
  intro member
  obtain ⟨amount, small, same⟩ := exists_digitChar_of_mem_toDigits (by decide) member
  exact noDigit amount small same

section

variable {quote : Char} {bare rest : List Char}

/-- Nothing is replaced at a backslash in front of another mark than the quote, nor at this mark. -/
theorem replaceAll_marked {mark : Char} (different : mark ≠ quote)
    (apart : rest.head? ≠ some quote) :
    replaceAll ['\\', quote] [quote] ('\\' :: mark :: rest) =
      '\\' :: mark :: replaceAll ['\\', quote] [quote] rest := by
  have first : List.isPrefixOf ['\\', quote] ('\\' :: mark :: rest) = false := by
    simp [List.isPrefixOf, different.symm]
  have second : List.isPrefixOf ['\\', quote] (mark :: rest) = false := by
    cases rest with
    | nil => simp [List.isPrefixOf]
    | cons next rest =>
        have nextDifferent : quote ≠ next := by simpa [eq_comm] using apart
        simp [List.isPrefixOf, nextDifferent]
  rw [replaceAll_cons first, replaceAll_cons second]

/-- The escape of any other character than the quote stays as it is. -/
theorem replaceAll_escapeAscii (isQuote : quote = '"' ∨ quote = '\x27') {character : Char}
    (different : character ≠ quote) (apart : rest.head? ≠ some quote) :
    replaceAll ['\\', quote] [quote] (escapeAscii character ++ rest) =
      escapeAscii character ++ replaceAll ['\\', quote] [quote] rest := by
  have noMark : 't' ≠ quote ∧ 'r' ≠ quote ∧ 'n' ≠ quote ∧ 'u' ≠ quote ∧ '\x7b' ≠ quote := by
    rcases isQuote with rfl | rfl <;> decide
  obtain ⟨noTab, noReturn, noNewline, noPoint, noBrace⟩ := noMark
  rw [escapeAscii]
  -- The escapes begin with a backslash. What follows it is not the quote, and the second backslash
  -- of an escaped backslash stands in front of the rest.
  split
  next => exact replaceAll_marked noTab apart
  split
  next => exact replaceAll_marked noReturn apart
  split
  next => exact replaceAll_marked noNewline apart
  split
  next => exact replaceAll_marked different apart
  next noSpecial =>
    split
    next =>
      have plain : '\\' ∉ [character] := by
        simp only [List.mem_singleton]
        exact fun same => noSpecial (.inr (.inr same.symm))
      exact replaceAll_append_of_not_mem plain
    next =>
      have opens : ('\x7b' :: Nat.toDigits 16 character.toNat ++ ['\x7d'] ++ rest).head? ≠
          some quote := by simpa using noBrace
      have noDigit : '\\' ∉ Nat.toDigits 16 character.toNat :=
        not_mem_toDigits (by decide) character.toNat
      have plain : '\\' ∉ '\x7b' :: Nat.toDigits 16 character.toNat ++ ['\x7d'] := by
        simp [noDigit]
      have kept := replaceAll_marked noPoint opens
      rw [replaceAll_append_of_not_mem plain] at kept
      simpa [unicodeEscape] using kept

/-- The text behind a character does not begin with a quote that is escaped. -/
theorem head?_escapeExcept_ne (isQuote : quote = '"' ∨ quote = '\x27') (notBare : quote ∉ bare)
    (character : Char) : (escapeExcept bare character ++ rest).head? ≠ some quote := by
  have noBackslash : '\\' ≠ quote := by
    rcases isQuote with rfl | rfl <;> decide
  rw [escapeExcept]
  split
  next isBare =>
    rw [List.singleton_append, List.head?_cons]
    intro same
    exact notBare (Option.some.inj same ▸ isBare)
  next =>
    rw [escapeAscii, unicodeEscape]
    repeat' split
    all_goals simp [noBackslash]
    next noSpecial _ =>
      rintro rfl
      rcases isQuote with same | same <;> simp [same] at noSpecial

/-- At one character, the pass takes the backslash away from the quote and changes nothing else. -/
theorem replaceAll_escapeExcept (isQuote : quote = '"' ∨ quote = '\x27')
    (noBackslash : '\\' ∉ bare) (character : Char) (apart : rest.head? ≠ some quote) :
    replaceAll ['\\', quote] [quote] (escapeExcept bare character ++ rest) =
      escapeExcept (quote :: bare) character ++ replaceAll ['\\', quote] [quote] rest := by
  by_cases isBare : character ∈ bare
  · have plain : '\\' ∉ [character] := by
      simp only [List.mem_singleton]
      exact fun same => noBackslash (same ▸ isBare)
    rw [escapeExcept, if_pos isBare, replaceAll_append_of_not_mem plain, escapeExcept,
      if_pos (.tail _ isBare)]
  · rw [escapeExcept, if_neg isBare]
    by_cases same : character = quote
    · have escaped : escapeAscii quote = ['\\', quote] := by
        rcases isQuote with rfl | rfl <;> rfl
      rw [same, escaped, replaceAll_occurrence, escapeExcept, if_pos List.mem_cons_self]
    · rw [replaceAll_escapeAscii isQuote same apart, escapeExcept, if_neg]
      simp [same, isBare]

/-- One pass takes the backslashes away from one kind of quote. -/
theorem replaceAll_flatMap_escapeExcept (isQuote : quote = '"' ∨ quote = '\x27')
    (notBare : quote ∉ bare) (noBackslash : '\\' ∉ bare) (text : List Char) :
    replaceAll ['\\', quote] [quote] (text.flatMap (escapeExcept bare)) =
      text.flatMap (escapeExcept (quote :: bare)) := by
  induction text with
  | nil => rfl
  | cons character text inductionHypothesis =>
      have apart : (text.flatMap (escapeExcept bare)).head? ≠ some quote := by
        cases text with
        | nil => nofun
        | cons next text =>
            rw [List.flatMap_cons]
            exact head?_escapeExcept_ne isQuote notBare next
      rw [List.flatMap_cons, replaceAll_escapeExcept isQuote noBackslash character apart,
        inductionHypothesis, List.flatMap_cons]

end

/-- After both passes every character is shown by itself. -/
theorem bareQuotes_flatMap_escapeAscii (text : List Char) :
    bareQuotes (text.flatMap escapeAscii) = text.flatMap shown := by
  have escaped : escapeAscii = escapeExcept [] := by
    funext character
    rw [escapeExcept, if_neg List.not_mem_nil]
  have bare : escapeExcept ['\x27', '"'] = shown := by
    funext character
    by_cases apostrophe : character = '\x27'
    · rw [apostrophe]
      rfl
    by_cases doubleQuote : character = '"'
    · rw [doubleQuote]
      rfl
    by_cases backslash : character = '\\'
    · rw [backslash]
      rfl
    simp [escapeExcept, escapeAscii, shown, apostrophe, doubleQuote, backslash]
  rw [bareQuotes, escaped, replaceAll_flatMap_escapeExcept (.inl rfl) (by decide) (by decide),
    replaceAll_flatMap_escapeExcept (.inr rfl) (by decide) (by decide), bare]

/-- These characters have a short name, which stands behind a backslash. -/
def shortNames : List (Char × Char) := [('\t', 't'), ('\r', 'r'), ('\n', 'n'), ('\\', '\\')]

/-- A character is shown as it is, by its short name, or by its code point. -/
inductive ShownAs : Char → List Char → Prop
  | plain {character : Char} (noBackslash : character ≠ '\\')
      (printable : 0x20 ≤ character.toNat ∧ character.toNat ≤ 0x7e) : ShownAs character [character]
  | short {character name : Char} (named : (character, name) ∈ shortNames) :
      ShownAs character ['\\', name]
  | codePoint (character : Char) : ShownAs character (unicodeEscape character)

theorem shownAs_shown (character : Char) : ShownAs character (shown character) := by
  rw [shown]
  split
  next same => exact .short (by simp [same, shortNames])
  split
  next same => exact .short (by simp [same, shortNames])
  split
  next same => exact .short (by simp [same, shortNames])
  split
  next same => exact .short (by simp [same, shortNames])
  next noBackslash =>
    split
    next printable => exact .plain noBackslash printable
    next => exact .codePoint character

namespace ShownAs

variable {character character' : Char} {written written' rest rest' : List Char}

theorem ne_nil (as : ShownAs character written) : written ≠ [] := by
  cases as <;> exact List.cons_ne_nil _ _

/-- Only printable characters of ASCII are used. -/
theorem printable (as : ShownAs character written) :
    ∀ used ∈ written, 0x20 ≤ used.toNat ∧ used.toNat ≤ 0x7e := by
  cases as with
  | plain _ printable => exact List.forall_mem_singleton.mpr printable
  | short named =>
      have names : ∀ entry ∈ shortNames, 0x20 ≤ entry.2.toNat ∧ entry.2.toNat ≤ 0x7e := by decide
      exact List.forall_mem_cons.mpr ⟨by decide, List.forall_mem_singleton.mpr (names _ named)⟩
  | codePoint =>
      have digits : ∀ amount < 16, 0x20 ≤ (Nat.digitChar amount).toNat ∧
          (Nat.digitChar amount).toNat ≤ 0x7e := by decide
      intro used member
      simp only [unicodeEscape, List.mem_append, List.mem_cons, List.not_mem_nil, or_false]
        at member
      rcases member with ((rfl | rfl | rfl) | isDigit) | rfl
      · decide
      · decide
      · decide
      · obtain ⟨amount, small, rfl⟩ := exists_digitChar_of_mem_toDigits (by decide) isDigit
        exact digits amount small
      · decide

/-- Different characters do not begin the same text. -/
theorem unique (as : ShownAs character written) (as' : ShownAs character' written')
    (same : written ++ rest = written' ++ rest') : character = character' := by
  have noName : ∀ entry ∈ shortNames, entry.2 ≠ 'u' := by decide
  have oneName : ∀ entry ∈ shortNames, ∀ entry' ∈ shortNames, entry.2 = entry'.2 →
      entry.1 = entry'.1 := by decide
  cases as with
  | plain noBackslash _ =>
      cases as' with
      | plain _ _ => exact (List.cons.inj same).1
      | short _ => exact absurd (List.cons.inj same).1 noBackslash
      | codePoint => exact absurd (List.cons.inj same).1 noBackslash
  | short named =>
      cases as' with
      | plain noBackslash _ => exact absurd (List.cons.inj same).1.symm noBackslash
      | short named' =>
          have names := (List.cons.inj (List.cons.inj same).2).1
          exact oneName _ named _ named' names
      | codePoint => exact absurd (List.cons.inj (List.cons.inj same).2).1 (noName _ named)
  | codePoint =>
      cases as' with
      | plain noBackslash _ => exact absurd (List.cons.inj same).1.symm noBackslash
      | short named => exact absurd (List.cons.inj (List.cons.inj same).2).1.symm (noName _ named)
      | codePoint =>
          have noBrace (value : Nat) : '\x7d' ∉ Nat.toDigits 16 value :=
            not_mem_toDigits (by decide) value
          have digits : Nat.toDigits 16 character.toNat ++ '\x7d' :: rest =
              Nat.toDigits 16 character'.toNat ++ '\x7d' :: rest' := by
            simpa [unicodeEscape] using same
          have sameDigits := (append_cons_inj (noBrace _) (noBrace _) digits).1
          exact Char.toNat_inj.mp (toDigits_injective (by decide) (by decide) sameDigits)

end ShownAs

/-- The characters of a text as its words, each written the way it is shown. -/
def shownCharacters : Vocabulary Char Char := ⟨shown, fun _ _ => True⟩

theorem shownCharacters_unambiguous : shownCharacters.Unambiguous where
  unique begins begins' :=
    (shownAs_shown _).unique (shownAs_shown _) (begins.written.symm.trans begins'.written)
  nonempty _ := (shownAs_shown _).ne_nil

theorem shownCharacters_splits (text : List Char) :
    shownCharacters.Splits (text.flatMap shown) text [] := by
  have always (word : Char) (rest : List Char) : shownCharacters.allows word rest ↔ True := Iff.rfl
  rw [Vocabulary.Splits.iff_written always]
  exact ⟨(List.append_nil _).symm, fun _ _ => trivial, shownCharacters_unambiguous.not_begins_nil⟩

/-- No two texts are shown alike. -/
theorem flatMap_shown_injective {text text' : List Char}
    (same : text.flatMap shown = text'.flatMap shown) : text = text' := by
  have splits := shownCharacters_splits text
  rw [same] at splits
  exact (splits.unique shownCharacters_unambiguous (shownCharacters_splits text')).1

end ParserCombinators.Text
