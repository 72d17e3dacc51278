/-
This file reads decimal integers.
-/

import ParserCombinators.Reader.Basic

namespace ParserCombinators.Reader

open Text

/-- An integer has an optional sign, at least one digit and a value within bounds. A minus sign is
allowed only where negative values are. -/
def integer (name : String) (low high : Int) : Reader Int where
  name := name
  read text :=
    let magnitude : Option Int :=
      match text.toList with
      | '+' :: digits => (readDigits digits).map Int.ofNat
      | '-' :: digits =>
          if low < 0 then (readDigits digits).map fun value => -Int.ofNat value else none
      | digits => (readDigits digits).map Int.ofNat
    magnitude.filter fun value => decide (low ≤ value) && decide (value ≤ high)

/-- Integers of this many bits with a sign. -/
def signed (name : String) (bits : Nat) : Reader Int :=
  integer name (-Int.pow 2 (bits - 1)) (Int.pow 2 (bits - 1) - 1)

/-- Integers of this many bits without a sign. -/
def unsigned (name : String) (bits : Nat) : Reader Int :=
  integer name 0 (Int.pow 2 bits - 1)

end ParserCombinators.Reader
