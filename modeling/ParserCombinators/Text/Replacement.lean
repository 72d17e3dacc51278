/-
This file replaces a pattern throughout a text.
-/

namespace ParserCombinators.Text

/-- The scan goes from left to right. The first characters are dropped while they belong to an
occurrence that has been replaced. -/
def replaceFrom (pattern replacement : List Char) : Nat → List Char → List Char
  | _, [] => []
  | skipped + 1, _ :: rest => replaceFrom pattern replacement skipped rest
  | 0, character :: rest =>
      if pattern.isPrefixOf (character :: rest) then
        replacement ++ replaceFrom pattern replacement (pattern.length - 1) rest
      else character :: replaceFrom pattern replacement 0 rest

/-- Every occurrence that does not overlap an earlier one is replaced. The pattern holds at least
one character. -/
def replaceAll (pattern replacement text : List Char) : List Char :=
  replaceFrom pattern replacement 0 text

theorem replaceFrom_append_length (pattern replacement dropped rest : List Char) :
    replaceFrom pattern replacement dropped.length (dropped ++ rest) =
      replaceFrom pattern replacement 0 rest := by
  induction dropped with
  | nil => rfl
  | cons character dropped inductionHypothesis =>
      simpa [replaceFrom] using inductionHypothesis

variable {pattern replacement rest : List Char} {first : Char} {others : List Char}

theorem replaceAll_cons {character : Char}
    (notHere : pattern.isPrefixOf (character :: rest) = false) :
    replaceAll pattern replacement (character :: rest) =
      character :: replaceAll pattern replacement rest := by
  simp [replaceAll, replaceFrom, notHere]

/-- Nothing is replaced before the first character of the pattern occurs. -/
theorem replaceAll_append_of_not_mem {kept : List Char} (absent : first ∉ kept) :
    replaceAll (first :: others) replacement (kept ++ rest) =
      kept ++ replaceAll (first :: others) replacement rest := by
  induction kept with
  | nil => rfl
  | cons character kept inductionHypothesis =>
      rw [List.mem_cons, not_or] at absent
      obtain ⟨different, absent⟩ := absent
      rw [List.cons_append, replaceAll_cons, inductionHypothesis absent, List.cons_append]
      simp [List.isPrefixOf, different]

theorem replaceAll_occurrence :
    replaceAll (first :: others) replacement (first :: others ++ rest) =
      replacement ++ replaceAll (first :: others) replacement rest := by
  have here : (first :: others).isPrefixOf (first :: (others ++ rest)) = true := by simp
  rw [List.cons_append, replaceAll, replaceFrom, if_pos here, replaceAll]
  exact congrArg (replacement ++ ·) (replaceFrom_append_length ..)

end ParserCombinators.Text
