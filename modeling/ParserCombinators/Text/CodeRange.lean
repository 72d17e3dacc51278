/-
This file defines tables of code points and the sets that they stand for.
-/

namespace ParserCombinators.Text

/-- A table lists ranges of code points by their first and last members. The ranges ascend, and a
gap lies between any two of them. -/
abbrev CodeRanges := List (Nat × Nat)

/-- No code point is greater. -/
def lastCodePoint : Nat := 0x10ffff

namespace CodeRanges

/-- A code point is in a table when it lies within one of its ranges. -/
def covers (ranges : CodeRanges) (code : Nat) : Bool :=
  ranges.any fun range => decide (range.1 ≤ code) && decide (code ≤ range.2)

theorem covers_iff (ranges : CodeRanges) (code : Nat) :
    ranges.covers code = true ↔ ∃ range ∈ ranges, range.1 ≤ code ∧ code ≤ range.2 := by
  simp [covers, List.any_eq_true]

/-- A range that touches ranges of the table becomes one range with them. -/
def add (range : Nat × Nat) : CodeRanges → CodeRanges
  | [] => [range]
  | first :: rest =>
      if range.2 + 1 < first.1 then range :: first :: rest
      else if first.2 + 1 < range.1 then first :: add range rest
      else add (min range.1 first.1, max range.2 first.2) rest

/-- The code points of either table. -/
def union (first second : CodeRanges) : CodeRanges :=
  second.foldl (fun table range => table.add range) first

/-- The code points from the start on that are not in the table. -/
def gapsFrom (start : Nat) : CodeRanges → CodeRanges
  | [] => if start ≤ lastCodePoint then [(start, lastCodePoint)] else []
  | range :: rest =>
      if start < range.1 then (start, range.1 - 1) :: gapsFrom (range.2 + 1) rest
      else gapsFrom (range.2 + 1) rest

/-- All code points that are not in the table. -/
def complement (ranges : CodeRanges) : CodeRanges := gapsFrom 0 ranges

/-- The code points of both tables. -/
def intersection (first second : CodeRanges) : CodeRanges :=
  (first.complement.union second.complement).complement

end CodeRanges

end ParserCombinators.Text
