/-
This file fits a text into the fixed column that trace lines start with.
-/

import ParserCombinators.Text.Quoted
import ParserCombinators.Text.Replacement
import ParserCombinators.Text.WhiteSpace

namespace ParserCombinators.Text

/-- Everything outside printable ASCII is escaped, and so are the backslash and both quotes. -/
def escapeAscii (character : Char) : List Char :=
  if character = '\t' then ['\\', 't']
  else if character = '\r' then ['\\', 'r']
  else if character = '\n' then ['\\', 'n']
  else if character = '\x27' ∨ character = '"' ∨ character = '\\' then ['\\', character]
  else if 0x20 ≤ character.toNat ∧ character.toNat ≤ 0x7e then [character]
  else unicodeEscape character

/-- Blanks fill a text up to the wanted number of characters. -/
def padRight (width : Nat) (text : String) : String :=
  String.ofList (text.toList ++ List.replicate (width - text.toList.length) ' ')

/-- The column shows this many characters between its bars. -/
def columnCapacity : Nat := 33

/-- Both quotes are shown bare, so their backslashes are taken out of the escaped text. -/
def bareQuotes (escaped : List Char) : List Char :=
  replaceAll ['\\', '\x27'] ['\x27'] (replaceAll ['\\', '"'] ['"'] escaped)

/-- These are the characters between the bars of the column. -/
def columnContent (text : List Char) : List Char :=
  (bareQuotes ((text.take columnCapacity).flatMap escapeAscii)).take columnCapacity

/-- The column holds the content between bars and is filled with blanks. -/
def column (text : String) : String :=
  padRight (columnCapacity + 2) (String.ofList ('|' :: columnContent text.toList ++ ['|']))

/-- The content of the column without the blanks that fill it. -/
def columnTrimmed (text : String) : String :=
  String.ofList ((column text).toList.reverse.dropWhile isWhiteSpace).reverse

end ParserCombinators.Text
