/-
This file tells the digits and letters of ASCII and gives decimal digits their value.
-/

namespace ParserCombinators.Text

def isAsciiDigit (character : Char) : Bool :=
  decide ('0' ≤ character) && decide (character ≤ '9')

def isAsciiLower (character : Char) : Bool :=
  decide ('a' ≤ character) && decide (character ≤ 'z')

def isAsciiUpper (character : Char) : Bool :=
  decide ('A' ≤ character) && decide (character ≤ 'Z')

def isAsciiLetter (character : Char) : Bool :=
  isAsciiLower character || isAsciiUpper character

/-- The value of a list of decimal digits, of which the first is worth most. -/
def digitsValue (digits : List Char) : Nat :=
  digits.foldl (fun value digit => 10 * value + (digit.toNat - '0'.toNat)) 0

/-- One or more digits of ASCII. -/
def readDigits (characters : List Char) : Option Nat :=
  if !characters.isEmpty && characters.all isAsciiDigit then some (digitsValue characters)
  else none

end ParserCombinators.Text
