/-
This file reads records of bytes. A record is a length byte followed by that many bytes.
-/

import ParserCombinators.Parser.Basic

namespace ParserCombinators.Records

open ParserCombinators.Parser

/-- No rule is recursive, and nothing is remembered. -/
@[reducible] def signature : Signature := ⟨.bytes, Unit, Empty, fun _ => Unit⟩

def grammar : Grammar signature := fun rule => nomatch rule

def byte (description : String) (accepts : UInt8 → Bool) : Parser signature UInt8 :=
  leaf (.satisfy description accepts)

def payload (length : UInt8) : Parser signature (List UInt8) := leaf (.take length.toNat)

def record : Parser signature (List UInt8) := chain (byte "byte" fun _ => true) payload

/-- Records that are not empty are read up to a byte zero. -/
def records : Parser signature (List (List UInt8)) :=
  map Prod.fst
    (pair (many (chain (byte "length" (· != 0)) payload)) (byte "terminator" (· == 0)))

/-- Every round consumes a byte, so one more round than there are bytes is enough. -/
def fuel (bytes : List UInt8) : Nat := bytes.length + 1

def readRecord (bytes : List UInt8) : Outcome .bytes Unit (List UInt8) :=
  grammar.run (fuel bytes) record bytes ()

def readRecords (bytes : List UInt8) : Outcome .bytes Unit (List (List UInt8)) :=
  grammar.run (fuel bytes) records bytes ()

end ParserCombinators.Records
