/-
This file writes ranges of code points as runs of byte ranges. A run stands for the encodings in
UTF-8 whose bytes lie in its ranges one by one.
-/

import ParserCombinators.Text.CodeRange

namespace ParserCombinators.Text

abbrev ByteRun := List (Nat × Nat)

/-- A form of encoding has a leading byte and some bytes that follow it. The leading byte is the
mark together with the highest digit to base 64 of the code point. -/
structure EncodingForm where
  first : Nat
  last : Nat
  following : Nat
  mark : Nat

/-- Surrogates have no encoding. -/
def encodingForms : List EncodingForm :=
  [⟨0, 0x7f, 0, 0⟩, ⟨0x80, 0x7ff, 1, 0xc0⟩, ⟨0x800, 0xd7ff, 2, 0xe0⟩, ⟨0xe000, 0xffff, 2, 0xe0⟩,
    ⟨0x10000, lastCodePoint, 3, 0xf0⟩]

/-- The numbers of a range as runs of ranges of digits to base 64. The highest digit may be greater
than 63. The given number of digits follow it. A run is as wide as the range allows. -/
def digitRuns : Nat → Nat → Nat → List ByteRun
  | 0, first, last => [[(first, last)]]
  | following + 1, first, last =>
      let block := Nat.pow 64 (following + 1)
      let within := fun digit first last =>
        (digitRuns following first last).map ((digit, digit) :: ·)
      if first / block = last / block then within (first / block) (first % block) (last % block)
      else
        let opens := decide (first % block ≠ 0)
        let closes := decide (last % block ≠ block - 1)
        let low := if opens then first / block + 1 else first / block
        let high := if closes then last / block - 1 else last / block
        (if opens then within (first / block) (first % block) (block - 1) else []) ++
          (if low ≤ high then [(low, high) :: List.replicate (following + 1) (0, 63)] else []) ++
          (if closes then within (last / block) 0 (last % block) else [])

/-- The runs of the code points that have this form of encoding. Bytes after the leading one are
written as digits. -/
def EncodingForm.runs (form : EncodingForm) (range : Nat × Nat) : List ByteRun :=
  let first := max form.first range.1
  let last := min form.last range.2
  if first ≤ last then
    (digitRuns form.following first last).map fun run =>
      match run with
      | [] => []
      | (low, high) :: rest => (form.mark + low, form.mark + high) :: rest
  else []

/-- The runs of a table, in the order of their bytes. -/
def CodeRanges.byteRuns (ranges : CodeRanges) : List ByteRun :=
  ranges.flatMap fun range => encodingForms.flatMap fun form => form.runs range

/-- How many ranges two runs have in common before they differ. -/
def commonSteps : ByteRun → ByteRun → Nat
  | first :: firstRest, second :: secondRest =>
      if first = second then commonSteps firstRest secondRest + 1 else 0
  | _, _ => 0

/-- How many steps the runs take when each one shares its beginning with the run before it. -/
def stepCount (before : ByteRun) : List ByteRun → Nat
  | [] => 0
  | run :: rest => run.length - commonSteps before run + stepCount run rest

end ParserCombinators.Text
