/-
This file writes texts, characters, lists and optional values the way messages show them.
-/

import ParserCombinators.Text.Printable

namespace ParserCombinators.Text

/-- A code point is named by its lower case hexadecimal digits in braces. -/
def unicodeEscape (character : Char) : List Char :=
  ['\\', 'u', '\x7b'] ++ Nat.toDigits 16 character.toNat ++ ['\x7d']

/-- Inside quotes the backslash and the chosen quote are escaped, the common controls have short
names, and other unprintable characters are named by their code points. -/
def escapeInside (quote : Char) (character : Char) : List Char :=
  if character = quote ∨ character = '\\' then ['\\', character]
  else if character = '\t' then ['\\', 't']
  else if character = '\r' then ['\\', 'r']
  else if character = '\n' then ['\\', 'n']
  else if character = '\x00' then ['\\', '0']
  else if isPrintable character then [character]
  else unicodeEscape character

/-- A quoted text keeps apostrophes as they are. -/
def quoteText (text : String) : String :=
  String.ofList ('"' :: text.toList.flatMap (escapeInside '"') ++ ['"'])

/-- A quoted character keeps double quotes as they are. -/
def quoteCharacter (character : Char) : String :=
  String.ofList ('\x27' :: escapeInside '\x27' character ++ ['\x27'])

/-- A list is shown between brackets with its items separated by commas. -/
def showItems (items : List String) : String :=
  "[" ++ ", ".intercalate items ++ "]"

def showOptional : Option String → String
  | none => "None"
  | some content => "Some(" ++ content ++ ")"

end ParserCombinators.Text
