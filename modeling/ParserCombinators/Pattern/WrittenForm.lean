/-
This file reads the written form of regular expressions. Classes are written by their members, by
escapes and by names of ASCII. Classes by Unicode property and the flags that ignore blanks or
Unicode have no written form here.
-/

import ParserCombinators.Pattern.Expression
import ParserCombinators.Text.Ascii

namespace ParserCombinators.Pattern.WrittenForm

open Text

/-- What has been read stands for a tree of some height. Characters, single assertions and changes
of flags have the height zero. -/
structure Written (A : Type) where
  value : A
  height : Nat

def Written.under {A : Type} (written : Written A) : Written A :=
  { written with height := written.height + 1 }

/-- Several parts, latest first, lie under one node. One part stands for itself. -/
def Written.join {A : Type} (build : List A → A) : List (Written A) → Written A
  | [] => ⟨build [], 0⟩
  | [only] => only
  | parts =>
      ⟨build (parts.reverse.map Written.value),
        (parts.map Written.height).foldl max 0 + 1⟩

/-- No tree is higher. -/
def heightLimit : Nat := 250

/-- Flags hold from where they are set to the end of the enclosing group. -/
structure Flags where
  caseless : Bool
  multiLine : Bool
  dotMatchesLineFeed : Bool
  swapGreed : Bool
  returnsEndLines : Bool

def Flags.initial : Flags := ⟨false, false, false, false, false⟩

/-- The flags have one letter each. -/
def Flags.set (flags : Flags) (value : Bool) : Char → Option Flags
  | 'i' => some { flags with caseless := value }
  | 'm' => some { flags with multiLine := value }
  | 's' => some { flags with dotMatchesLineFeed := value }
  | 'U' => some { flags with swapGreed := value }
  | 'R' => some { flags with returnsEndLines := value }
  | _ => none

/-- Flags after the dash are cleared. No flag is named twice, and a dash stands before a flag. -/
def readFlags (flags : Flags) (value : Bool) (named : List Char) :
    List Char → Option (Flags × List Char)
  | [] => none
  | '-' :: rest =>
      if value && rest.head? != some ':' && rest.head? != some ')' then
        readFlags flags false named rest
      else none
  | letter :: rest =>
      if letter = ':' ∨ letter = ')' then some (flags, letter :: rest)
      else if named.contains letter then none
      else
        match flags.set value letter with
        | some flags => readFlags flags value (letter :: named) rest
        | none => none

def hexDigit (character : Char) : Option Nat :=
  if isAsciiDigit character then some (character.toNat - '0'.toNat)
  else if 'a' ≤ character ∧ character ≤ 'f' then some (character.toNat - 'a'.toNat + 10)
  else if 'A' ≤ character ∧ character ≤ 'F' then some (character.toNat - 'A'.toNat + 10)
  else none

def hexValue (digits : List Char) : Option Nat :=
  if digits.isEmpty then none
  else digits.foldlM (fun value digit => (hexDigit digit).map (16 * value + ·)) 0

/-- A number names a character when it is a scalar value. -/
def scalar (code : Nat) : Option Char :=
  if code < 0xd800 ∨ (0xdfff < code ∧ code < 0x110000) then some (Char.ofNat code) else none

/-- The code point stands in braces or has a fixed number of digits. -/
def readCodePoint (digits : Nat) : List Char → Option (Char × List Char)
  | '\x7b' :: rest =>
      match rest.dropWhile (· != '\x7d') with
      | [] => none
      | _ :: after => do
          let code ← hexValue (rest.takeWhile (· != '\x7d'))
          let character ← scalar code
          some (character, after)
  | characters =>
      if characters.length < digits then none
      else do
        let code ← hexValue (characters.take digits)
        let character ← scalar code
        some (character, characters.drop digits)

/-- An escape stands for a character, a class or an assertion. -/
inductive Escape
  | character (value : Char)
  | characters (value : CharacterClass)
  | assertion (value : Assertion)

/-- Punctuation of ASCII may be escaped. -/
def isEscapable (character : Char) : Bool :=
  decide (character.toNat < 0x80) && !isAsciiLetter character && !isAsciiDigit character

/-- A boundary on one side of a word has a name. -/
def namedBoundary? : String → Option Assertion
  | "start" => some .wordStart
  | "end" => some .wordEnd
  | "start-half" => some .noWordBefore
  | "end-half" => some .noWordBehind
  | _ => none

def isBoundaryLetter (character : Char) : Bool := isAsciiLetter character || character == '-'

/-- The name of a boundary stands in braces. Braces that do not begin with a letter belong to a
repetition. -/
def readBoundary : List Char → Option (Assertion × List Char)
  | '\x7b' :: rest =>
      if rest.head?.any isBoundaryLetter then
        match rest.dropWhile isBoundaryLetter with
        | '\x7d' :: after => do
            let boundary ← namedBoundary? (String.ofList (rest.takeWhile isBoundaryLetter))
            some (boundary, after)
        | _ => none
      else some (.wordBoundary, '\x7b' :: rest)
  | characters => some (.wordBoundary, characters)

/-- This reads what follows the backslash. -/
def readEscape : List Char → Option (Escape × List Char)
  | [] => none
  | 'a' :: rest => some (.character '\x07', rest)
  | 'f' :: rest => some (.character '\x0c', rest)
  | 'n' :: rest => some (.character '\n', rest)
  | 'r' :: rest => some (.character '\r', rest)
  | 't' :: rest => some (.character '\t', rest)
  | 'v' :: rest => some (.character '\x0b', rest)
  | 'x' :: rest => (readCodePoint 2 rest).map fun (value, rest) => (.character value, rest)
  | 'u' :: rest => (readCodePoint 4 rest).map fun (value, rest) => (.character value, rest)
  | 'U' :: rest => (readCodePoint 8 rest).map fun (value, rest) => (.character value, rest)
  | 'd' :: rest => some (.characters .decimalDigit, rest)
  | 's' :: rest => some (.characters .whiteSpace, rest)
  | 'w' :: rest => some (.characters .word, rest)
  | 'D' :: rest => some (.characters (.complement .decimalDigit), rest)
  | 'S' :: rest => some (.characters (.complement .whiteSpace), rest)
  | 'W' :: rest => some (.characters (.complement .word), rest)
  | 'A' :: rest => some (.assertion .textStart, rest)
  | 'z' :: rest => some (.assertion .textEnd, rest)
  | 'b' :: rest => (readBoundary rest).map fun (value, rest) => (.assertion value, rest)
  | 'B' :: rest => some (.assertion .noWordBoundary, rest)
  | '<' :: rest => some (.assertion .wordStart, rest)
  | '>' :: rest => some (.assertion .wordEnd, rest)
  | other :: rest => if isEscapable other then some (.character other, rest) else none

/-- Under the caseless flag a class holds both cases of its letters. -/
def Flags.apply (flags : Flags) (characters : CharacterClass) : CharacterClass :=
  if flags.caseless then .caseless characters else characters

/-- Inside a class an item is one character or a whole class. Assertions are not allowed. -/
def readClassItem : List Char → Option ((Char ⊕ CharacterClass) × List Char)
  | [] => none
  | '\\' :: rest =>
      match readEscape rest with
      | some (.character value, rest) => some (.inl value, rest)
      | some (.characters value, rest) => some (.inr value, rest)
      | some (.assertion _, _) => none
      | none => none
  | character :: rest => some (.inl character, rest)

/-- A dash between two characters makes a range of them. A dash before the closing bracket or
before another dash is no part of a range. -/
def readClassRange (flags : Flags) (characters : List Char) :
    Option (CharacterClass × List Char) := do
  let (first, rest) ← readClassItem characters
  match first, rest with
  | _, [] => none
  | .inl first, '-' :: after =>
      if after.head? = some ']' ∨ after.head? = some '-' then
        some (flags.apply (.single first), rest)
      else
        match ← readClassItem after with
        | (.inl last, rest) =>
            if first ≤ last then some (flags.apply (.range first last), rest) else none
        | (.inr _, _) => none
  | .inr first, '-' :: after =>
      if after.head? = some ']' ∨ after.head? = some '-' then some (first, rest) else none
  | .inl first, rest => some (flags.apply (.single first), rest)
  | .inr first, rest => some (first, rest)

/-- The left side of a set operation waits until its right side has been read. -/
inductive SetOperation
  | intersection
  | difference
  | symmetricDifference

def SetOperation.apply : SetOperation → CharacterClass → CharacterClass → CharacterClass
  | .intersection, first, second => first.intersection second
  | .difference, first, second => first.intersection second.complement
  | .symmetricDifference, first, second =>
      (first.intersection second.complement).union (second.intersection first.complement)

def uniteItems (items : List (Written CharacterClass)) : Written CharacterClass :=
  .join (fun classes => classes.foldl CharacterClass.union .nothing) items

def combine (pending : Option (Written CharacterClass × SetOperation))
    (items : List (Written CharacterClass)) : Written CharacterClass :=
  let right := uniteItems items
  match pending with
  | none => right
  | some (left, operation) =>
      ⟨operation.apply left.value right.value, max left.height right.height + 1⟩

/-- The caret after the opening bracket asks for the complement. Dashes that follow stand for
themselves, and so does a closing bracket that comes before any item. -/
def readClassOpening (flags : Flags) (characters : List Char) :
    Bool × List (Written CharacterClass) × List Char :=
  let (negated, rest) :=
    match characters with
    | '^' :: rest => (true, rest)
    | rest => (false, rest)
  let item := fun character => Written.mk (flags.apply (.single character)) 0
  let dashes := (rest.takeWhile (· == '-')).map item
  match dashes, rest.dropWhile (· == '-') with
  | [], ']' :: rest => (negated, [item ']'], rest)
  | dashes, rest => (negated, dashes, rest)

/-- A name between colons stands for its class, and a caret in front of the name for the complement.
This reads what follows the opening bracket. Without such a name the bracket opens a nested
class. -/
def readNamedClass (flags : Flags) : List Char → Option (CharacterClass × List Char)
  | ':' :: characters =>
      let (negated, rest) :=
        match characters with
        | '^' :: rest => (true, rest)
        | rest => (false, rest)
      match rest.dropWhile (· != ':') with
      | ':' :: ']' :: after => do
          let members ← CharacterClass.named? (String.ofList (rest.takeWhile (· != ':')))
          let value := flags.apply members
          some (if negated then value.complement else value, after)
      | _ => none
  | _ => none

mutual

/-- This reads the items of a class up to the closing bracket. The latest item comes first. -/
def readClassItems (flags : Flags) : Nat → Option (Written CharacterClass × SetOperation) →
    List (Written CharacterClass) → List Char → Option (Written CharacterClass × List Char)
  | 0, _, _, _ => none
  | fuel + 1, pending, items, characters =>
      match characters with
      | [] => none
      | ']' :: rest => some (combine pending items, rest)
      | '[' :: rest =>
          match readNamedClass flags rest with
          | some (members, rest) => readClassItems flags fuel pending (⟨members, 0⟩ :: items) rest
          | none => do
              let (nested, rest) ← readClass flags fuel rest
              readClassItems flags fuel pending (nested :: items) rest
      | '&' :: '&' :: rest =>
          readClassItems flags fuel (some (combine pending items, .intersection)) [] rest
      | '-' :: '-' :: rest =>
          readClassItems flags fuel (some (combine pending items, .difference)) [] rest
      | '~' :: '~' :: rest =>
          readClassItems flags fuel (some (combine pending items, .symmetricDifference)) [] rest
      | characters => do
          let (item, rest) ← readClassRange flags characters
          readClassItems flags fuel pending (⟨item, 0⟩ :: items) rest

/-- This reads what follows the opening bracket of a class. -/
def readClass (flags : Flags) :
    Nat → List Char → Option (Written CharacterClass × List Char)
  | 0, _ => none
  | fuel + 1, characters => do
      let (negated, items, rest) := readClassOpening flags characters
      let (result, rest) ← readClassItems flags fuel none items rest
      let value := if negated then result.value.complement else result.value
      some (⟨value, result.height + 1⟩, rest)

end

/-- A count is written with decimal digits, is below two to the power 32, and may stand between
blanks. -/
def readCount (characters : List Char) : Option (Nat × List Char) := do
  let trimmed := characters.dropWhile isWhiteSpace
  let count ← readDigits (trimmed.takeWhile isAsciiDigit)
  if count < Nat.pow 2 32 then
    some (count, (trimmed.dropWhile isAsciiDigit).dropWhile isWhiteSpace)
  else none

/-- The lower and the upper count of a repetition. The upper one may be missing. -/
def readCounts (characters : List Char) : Option (Nat × Option Nat × List Char) := do
  let (low, rest) ← readCount characters
  match rest with
  | '\x7d' :: rest => some (low, some low, rest)
  | ',' :: '\x7d' :: rest => some (low, none, rest)
  | ',' :: rest =>
      let (high, rest) ← readCount rest
      match rest with
      | '\x7d' :: rest => if low ≤ high then some (low, some high, rest) else none
      | _ => none
  | _ => none

/-- A question mark after a repetition turns its preference around. -/
def readPreference (flags : Flags) : List Char → Bool × List Char
  | '?' :: rest => (flags.swapGreed, rest)
  | rest => (!flags.swapGreed, rest)

/-- An item of a branch is an expression, or a change of flags, which is not repeated. -/
inductive Item
  | expression (written : Written Expression)
  | changeOfFlags

def Item.written : Item → Written Expression
  | .expression written => written
  | .changeOfFlags => ⟨.empty, 0⟩

def repeatLast (low : Nat) (high : Option Nat) (greedy : Bool) :
    List Item → Option (List Item)
  | .expression last :: items =>
      some (.expression ⟨.times low high greedy last.value, last.height + 1⟩ :: items)
  | _ => none

/-- The items of one branch, latest first, follow each other. -/
def joinItems (items : List Item) : Written Expression :=
  .join Expression.sequenceOf (items.map Item.written)

/-- The branches, latest first, are tried from the earliest one. -/
def joinBranches (branches : List (Written Expression)) : Written Expression :=
  .join Expression.choiceOf branches

def isNameCharacter (character : Char) : Bool :=
  isAsciiLetter character || isAsciiDigit character || character == '_' || character == '.' ||
    character == '[' || character == ']'

/-- The name of a group ends with a closing angle bracket. -/
def readName (characters : List Char) : Option (List Char) :=
  match characters with
  | first :: _ =>
      if isAsciiLetter first || first == '_' then
        match characters.dropWhile isNameCharacter with
        | '>' :: rest => some rest
        | _ => none
      else none
  | [] => none

/-- A parenthesis opens a group with its own flags or changes the flags of the group around it. A
group that is not plain has a number. -/
inductive Opening
  | group (number : Option Nat) (flags : Flags) (rest : List Char)
  | change (flags : Flags) (rest : List Char)

/-- This reads what follows an opening parenthesis. The characters that follow the parenthesis tell
groups apart, so their count is the number of the group. -/
def readOpening (flags : Flags) (characters : List Char) : Option Opening :=
  let number := some characters.length
  match characters with
  | '?' :: 'P' :: '<' :: rest => (readName rest).map (.group number flags)
  | '?' :: '<' :: rest => (readName rest).map (.group number flags)
  | '?' :: rest =>
      match readFlags flags true [] rest with
      | some (changed, ':' :: after) => some (.group none changed after)
      | some (changed, ')' :: after) =>
          if rest.head? = some ')' then none else some (.change changed after)
      | _ => none
  | rest => some (.group number flags rest)

def closeGroup (number : Option Nat) (inner : Written Expression) : Item :=
  .expression
    (match number with
    | some number => ⟨.group number inner.value, inner.height + 1⟩
    | none => inner.under)

/-- The assertion that a caret stands for. -/
def Flags.caret (flags : Flags) : Assertion :=
  if !flags.multiLine then .textStart
  else if flags.returnsEndLines then .anyLineStart
  else .lineStart

/-- The assertion that a dollar sign stands for. -/
def Flags.dollar (flags : Flags) : Assertion :=
  if !flags.multiLine then .textEnd
  else if flags.returnsEndLines then .anyLineEnd
  else .lineEnd

/-- The characters that a dot stands for. -/
def Flags.dot (flags : Flags) : CharacterClass :=
  if flags.dotMatchesLineFeed then .anything
  else if flags.returnsEndLines then .withinAnyLine
  else .withinLine

/-- This reads one character that is no operator. -/
def readPlain (flags : Flags) : Char → Expression
  | '.' => .ofClass flags.dot
  | '^' => .assertion flags.caret
  | '$' => .assertion flags.dollar
  | character => .ofClass (flags.apply (.single character))

/-- This reads the branches of a group up to its end. The latest branches and items come first.
There is room for some more groups, one inside the other. -/
def readBranches : Nat → Nat → Flags → List (Written Expression) → List Item → List Char →
    Option (Written Expression × List Char)
  | 0, _, _, _, _, _ => none
  | fuel + 1, room, flags, branches, items, characters =>
      match characters with
      | [] => some (joinBranches (joinItems items :: branches), [])
      | ')' :: rest => some (joinBranches (joinItems items :: branches), ')' :: rest)
      | '|' :: rest => readBranches fuel room flags (joinItems items :: branches) [] rest
      | '*' :: rest => do
          let (greedy, rest) := readPreference flags rest
          let items ← repeatLast 0 none greedy items
          readBranches fuel room flags branches items rest
      | '+' :: rest => do
          let (greedy, rest) := readPreference flags rest
          let items ← repeatLast 1 none greedy items
          readBranches fuel room flags branches items rest
      | '?' :: rest => do
          let (greedy, rest) := readPreference flags rest
          let items ← repeatLast 0 (some 1) greedy items
          readBranches fuel room flags branches items rest
      | '\x7b' :: rest => do
          let (low, high, rest) ← readCounts rest
          let (greedy, rest) := readPreference flags rest
          let items ← repeatLast low high greedy items
          readBranches fuel room flags branches items rest
      | '(' :: rest =>
          match readOpening flags rest with
          | none => none
          | some (.change changed rest) =>
              readBranches fuel room changed branches (.changeOfFlags :: items) rest
          | some (.group number inner rest) =>
              if room = 0 then none
              else
                match readBranches fuel (room - 1) inner [] [] rest with
                | some (group, ')' :: rest) =>
                    readBranches fuel room flags branches (closeGroup number group :: items) rest
                | _ => none
      | '[' :: rest => do
          let (characters, rest) ← readClass flags (2 * rest.length + 2) rest
          let item := Written.mk (Expression.ofClass characters.value) characters.height
          readBranches fuel room flags branches (.expression item :: items) rest
      | '\\' :: rest => do
          let (escape, rest) ← readEscape rest
          let value :=
            match escape with
            | .character value => Expression.ofClass (flags.apply (.single value))
            | .characters value => .ofClass value
            | .assertion value => .assertion value
          readBranches fuel room flags branches (.expression ⟨value, 0⟩ :: items) rest
      | character :: rest =>
          let item := Written.mk (readPlain flags character) 0
          readBranches fuel room flags branches (.expression item :: items) rest

/-- A written expression is read as a whole or not at all. -/
def read (source : String) : Option Expression :=
  let characters := source.toList
  match readBranches (characters.length + 1) heightLimit .initial [] [] characters with
  | some (written, []) => if written.height ≤ heightLimit then some written.value else none
  | _ => none

end ParserCombinators.Pattern.WrittenForm
