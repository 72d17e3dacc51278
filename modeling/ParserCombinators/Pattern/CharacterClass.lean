/-
This file defines the sets of characters that patterns are built from.
-/

import ParserCombinators.Text.Ascii
import ParserCombinators.Text.WhiteSpace
import ParserCombinators.Text.WordCharacter

namespace ParserCombinators.Pattern

open Text

/-- A class is the set of the characters that a table lists. Equal sets are equal classes. -/
structure CharacterClass where
  ranges : CodeRanges
  deriving Repr, DecidableEq

namespace CharacterClass

def contains (characters : CharacterClass) (character : Char) : Bool :=
  characters.ranges.covers character.toNat

def range (first last : Char) : CharacterClass := ⟨[(first.toNat, last.toNat)]⟩

def single (character : Char) : CharacterClass := range character character

def nothing : CharacterClass := ⟨[]⟩

/-- Every character belongs to this class. -/
def anything : CharacterClass := ⟨[(0, lastCodePoint)]⟩

def asciiDigit : CharacterClass := range '0' '9'

def asciiLower : CharacterClass := range 'a' 'z'

def decimalDigit : CharacterClass := ⟨decimalDigitRanges⟩

def whiteSpace : CharacterClass := ⟨whiteSpaceRanges⟩

def word : CharacterClass := ⟨wordRanges⟩

def union (first second : CharacterClass) : CharacterClass := ⟨first.ranges.union second.ranges⟩

def intersection (first second : CharacterClass) : CharacterClass :=
  ⟨first.ranges.intersection second.ranges⟩

def complement (excluded : CharacterClass) : CharacterClass := ⟨excluded.ranges.complement⟩

/-- Every character but the line feed. -/
def withinLine : CharacterClass := complement (single '\n')

/-- Every character but the line feed and the carriage return. -/
def withinAnyLine : CharacterClass := complement (union (single '\n') (single '\r'))

/-- The ranges ascend and have gaps between them. -/
def ofRanges (ranges : List (Char × Char)) : CharacterClass :=
  ⟨ranges.map fun range => (range.1.toNat, range.2.toNat)⟩

/-- Some classes of ASCII have a name. -/
def named? : String → Option CharacterClass
  | "alnum" => some (ofRanges [('0', '9'), ('A', 'Z'), ('a', 'z')])
  | "alpha" => some (ofRanges [('A', 'Z'), ('a', 'z')])
  | "ascii" => some (range '\x00' '\x7f')
  | "blank" => some (ofRanges [('\t', '\t'), (' ', ' ')])
  | "cntrl" => some (ofRanges [('\x00', '\x1f'), ('\x7f', '\x7f')])
  | "digit" => some asciiDigit
  | "graph" => some (range '!' '~')
  | "lower" => some asciiLower
  | "print" => some (range ' ' '~')
  | "punct" => some (ofRanges [('!', '/'), (':', '@'), ('[', '\x60'), ('\x7b', '~')])
  | "space" => some (ofRanges [('\t', '\r'), (' ', ' ')])
  | "upper" => some (range 'A' 'Z')
  | "word" => some (ofRanges [('0', '9'), ('A', 'Z'), ('_', '_'), ('a', 'z')])
  | "xdigit" => some (ofRanges [('0', '9'), ('A', 'F'), ('a', 'f')])
  | _ => none

/-- A class with one member is that character. -/
def onlyMember? (characters : CharacterClass) : Option Char :=
  match characters.ranges with
  | [(first, last)] => if first = last then some (Char.ofNat first) else none
  | _ => none

/-- The letters of a pair differ in case only. The long s goes with the letter `s` and the Kelvin
sign with the letter `k`. -/
def casePairs : List (Char × Char) :=
  ('s', '\u017f') :: ('k', '\u212a') ::
    (List.range 26).map fun index =>
      (Char.ofNat ('a'.toNat + index), Char.ofNat ('A'.toNat + index))

/-- A letter joins the class when the other letter of its pair belongs to it. -/
def addPair (characters : CharacterClass) (pair : Char × Char) : CharacterClass :=
  let withSecond :=
    if characters.contains pair.1 then characters.union (single pair.2) else characters
  if characters.contains pair.2 then withSecond.union (single pair.1) else withSecond

/-- A caseless class holds every case of each of its letters. The first two pairs come a second
time because they share letters with other pairs. -/
def caseless (characters : CharacterClass) : CharacterClass :=
  (casePairs ++ casePairs.take 2).foldl addPair characters

theorem contains_whiteSpace (character : Char) :
    whiteSpace.contains character = isWhiteSpace character := rfl

theorem contains_range (first last character : Char) :
    (range first last).contains character = true ↔ first ≤ character ∧ character ≤ last := by
  simp [range, contains, CodeRanges.covers, Char.le_def, UInt32.le_iff_toNat_le]

theorem contains_range_eq (first last character : Char) :
    (range first last).contains character =
      (decide (first ≤ character) && decide (character ≤ last)) := by
  rw [Bool.eq_iff_iff, contains_range, Bool.and_eq_true, decide_eq_true_iff, decide_eq_true_iff]

theorem contains_asciiDigit (character : Char) :
    asciiDigit.contains character = isAsciiDigit character :=
  contains_range_eq '0' '9' character

theorem contains_asciiLower (character : Char) :
    asciiLower.contains character = isAsciiLower character :=
  contains_range_eq 'a' 'z' character

end CharacterClass

end ParserCombinators.Pattern
