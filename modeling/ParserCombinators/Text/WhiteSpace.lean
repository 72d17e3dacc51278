/-
This file holds the White_Space property of characters.
-/

import ParserCombinators.Text.CodeRange

namespace ParserCombinators.Text

def whiteSpaceRanges : CodeRanges :=
  [(0x9, 0xd), (0x20, 0x20), (0x85, 0x85), (0xa0, 0xa0), (0x1680, 0x1680), (0x2000, 0x200a),
    (0x2028, 0x2029), (0x202f, 0x202f), (0x205f, 0x205f), (0x3000, 0x3000)]

/-- A character is white space when the property table lists it. -/
def isWhiteSpace (character : Char) : Bool :=
  whiteSpaceRanges.covers character.toNat

end ParserCombinators.Text
