/-
This file shows where the match of a pattern lies. It begins at the given offset and ends behind
some of the characters that follow.
-/

import ParserCombinators.Proofs.Movement

namespace ParserCombinators.Pattern

variable {pattern : Pattern} {text : List Char} {offset : Nat}

/-- A match begins at the offset, which no character contains, and covers some of the characters
behind it. -/
theorem matchFrom_eq_some {span : Span} (found : pattern.matchFrom text offset = some span) :
    ∃ first consumed more, text = first ++ (consumed ++ more) ∧
      Medium.measure .text first = offset ∧
        span = ⟨offset, offset + Medium.measure .text consumed⟩ := by
  obtain ⟨found, starts⟩ := Option.filter_eq_some_iff.mp found
  replace starts : span.start = offset := beq_iff_eq.mp starts
  obtain ⟨start, stop⟩ := span
  subst starts
  obtain ⟨_, forward, _⟩ := pattern.bounds found
  obtain ⟨⟨first, ⟨rest, rfl⟩, startMeasure⟩, second, ⟨more, same⟩, stopMeasure⟩ :=
    pattern.boundaries found
  obtain ⟨consumed, rfl, rfl⟩ := @Medium.split_of_measure_le .text _ _ _ _ same.symm
    (by rw [startMeasure, stopMeasure]; exact forward)
  rw [Medium.measure_append, startMeasure] at stopMeasure
  exact ⟨first, consumed, more, rfl, startMeasure, by rw [stopMeasure]⟩

/-- No match begins inside a character or beyond the text. -/
theorem matchFrom_eq_none (inside : Medium.after .text text offset = none) :
    pattern.matchFrom text offset = none := by
  cases found : pattern.matchFrom text offset with
  | none => rfl
  | some span =>
      obtain ⟨first, consumed, more, same, total, _⟩ := matchFrom_eq_some found
      have begins := (Medium.after_eq_some_iff .text text _ offset).mpr ⟨first, same, total⟩
      rw [inside] at begins
      cases begins

/-- Such a pattern has an empty match somewhere. -/
def MatchesEmpty (pattern : Pattern) : Prop :=
  ∃ text offset, pattern.matchFrom text offset = some ⟨offset, offset⟩

end ParserCombinators.Pattern
