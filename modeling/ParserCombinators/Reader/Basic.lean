/-
This file defines readers, which turn a whole text into a value or refuse it.
-/

import ParserCombinators.Text.Ascii

namespace ParserCombinators

/-- Messages name a reader by what it reads. -/
structure Reader (A : Type) where
  name : String
  read : String → Option A

namespace Reader

open Text

def map {A B : Type} (convert : A → B) (reader : Reader A) : Reader B :=
  ⟨reader.name, fun text => (reader.read text).map convert⟩

def boolean : Reader Bool where
  name := "bool"
  read text := if text = "true" then some true else if text = "false" then some false else none

/-- Exactly one character. -/
def character : Reader Char where
  name := "char"
  read text :=
    match text.toList with
    | [only] => some only
    | _ => none

/-- Every text reads as itself. -/
def text : Reader String where
  name := "String"
  read text := some text

/-- One or more lower case letters of ASCII. -/
def lowerCase (name : String) : Reader String where
  name := name
  read text := if !text.toList.isEmpty && text.toList.all isAsciiLower then some text else none

/-- A part of an address has at most three digits, is below 256 and has no leading zero. -/
def isAddressPart (part : List Char) : Bool :=
  match readDigits part with
  | none => false
  | some value =>
      decide (part.length ≤ 3) && decide (value < 256) && (part.head? != some '0' || part == ['0'])

/-- Four decimal parts with dots between them. -/
def address : Reader String where
  name := "Ipv4Addr"
  read text :=
    let parts := text.toList.splitOn '.'
    if parts.length = 4 ∧ parts.all isAddressPart then some text else none

end Reader

end ParserCombinators
