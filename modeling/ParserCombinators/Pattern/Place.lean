/-
This file defines places in a text and the assertions about them.
-/

import ParserCombinators.Text.WordCharacter

namespace ParserCombinators.Pattern

open Text

/-- A place in a text knows the character before it and all characters after it. -/
structure Place where
  previous : Option Char
  rest : List Char
  offset : Nat
  deriving Repr, DecidableEq

/-- Assertions look at the characters around a place and consume none. -/
inductive Assertion
  | textStart
  | textEnd
  | lineStart
  | lineEnd
  | anyLineStart
  | anyLineEnd
  | wordBoundary
  | noWordBoundary
  | wordStart
  | wordEnd
  | noWordBefore
  | noWordBehind
  deriving Repr, DecidableEq

def isWordAt : Option Char → Bool
  | none => false
  | some character => isWordCharacter character

/-- A line ends before a line feed and at the end of the text. Any line may also end before a
carriage return, but not between a carriage return and its line feed. -/
def Assertion.holds (place : Place) : Assertion → Bool
  | .textStart => place.previous.isNone
  | .textEnd => place.rest.isEmpty
  | .lineStart => place.previous.isNone || place.previous == some '\n'
  | .lineEnd => place.rest.isEmpty || place.rest.head? == some '\n'
  | .anyLineStart =>
      place.previous.isNone || place.previous == some '\n' ||
        (place.previous == some '\r' && place.rest.head? != some '\n')
  | .anyLineEnd =>
      place.rest.isEmpty || place.rest.head? == some '\r' ||
        (place.rest.head? == some '\n' && place.previous != some '\r')
  | .wordBoundary => isWordAt place.previous != isWordAt place.rest.head?
  | .noWordBoundary => isWordAt place.previous == isWordAt place.rest.head?
  | .wordStart => !isWordAt place.previous && isWordAt place.rest.head?
  | .wordEnd => isWordAt place.previous && !isWordAt place.rest.head?
  | .noWordBefore => !isWordAt place.previous
  | .noWordBehind => !isWordAt place.rest.head?

end ParserCombinators.Pattern
