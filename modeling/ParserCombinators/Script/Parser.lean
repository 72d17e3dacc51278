/-
This file gives scripts their parsers. Each kind of input has a dialect, which says what leaves
there are.
-/

import ParserCombinators.Parser.Basic
import ParserCombinators.Script.Value

namespace ParserCombinators.Script

open ParserCombinators.Parser ParserCombinators.Text

/-- Counting parsers remember how often each of them has run. -/
abbrev Counters := List Nat

/-- Rules are named by texts, and every parser yields a value. -/
@[reducible] def signature (medium : Medium) : Signature :=
  ⟨medium, Counters, String, fun _ => Value⟩

abbrev ScriptParser (medium : Medium) := Parser (signature medium) Value

variable {medium : Medium}

/-- This parser adds one to its counter and fails when the counter has reached the budget. It never
moves. -/
def zeroWidth (counter budget : Nat) : ScriptParser medium :=
  function fun cursor counters =>
    let calls := counters.getD counter 0 + 1
    let reading : Reading medium Value :=
      if budget ≤ calls then .failure (.new (.custom "budget") "iteration budget exhausted")
      else .success cursor (.integer calls)
    (reading, counters.set counter calls)

/-- Nothing is left to read. -/
def endOfInput : ScriptParser medium :=
  pureFunction fun cursor =>
    if cursor.isEnd then .success cursor .unit
    else .failAt cursor (.custom "end") ("unexpected " ++ quoteText (cursor.preview 5))

/-- One character of a text, whatever it is. -/
def anyCharacter : ScriptParser .text :=
  pureFunction fun cursor =>
    match cursor.peek with
    | some character => .consume cursor character.utf8Size fun _ => .character character
    | none => .failAt cursor (.custom "any") "unexpected end of input"

/-- Texts and slices have different leaves. A leaf that the input cannot have always fails. The
parser `same` reads again what a value stands for. -/
structure Dialect (medium : Medium) where
  elementValue : medium.Element → Value
  restValue : List medium.Element → Value
  literal : String → ScriptParser medium
  pattern : Pattern → ScriptParser medium
  anyCharacter : ScriptParser medium
  satisfy : String → ElementTest → ScriptParser medium
  take : Nat → ScriptParser medium
  same : Value → ScriptParser medium

def missingLeaf : ScriptParser medium := fail (.new (.custom "leaf") "no such leaf")

def readText (wanted : Leaf .text String) : ScriptParser .text := map Value.text (leaf wanted)

def textDialect : Dialect .text where
  elementValue := Value.character
  restValue elements := .text (String.ofList elements)
  literal expected := readText (.literal expected)
  pattern wanted := readText (.pattern wanted)
  anyCharacter := anyCharacter
  satisfy _ _ := missingLeaf
  take _ := missingLeaf
  same value := readText (.literal value.flat)

section

variable {Element : Type} {render : Element → String}

def satisfy (value : Element → Value) (description : String) (accepts : Value → Bool) :
    ScriptParser (.slice Element render) :=
  map value (leaf (.satisfy description fun element => accepts (value element)))

def take (value : Element → Value) (count : Nat) : ScriptParser (.slice Element render) :=
  map (fun elements : List Element => Value.list (elements.map value)) (leaf (.take count))

def sliceDialect (value : Element → Value) : Dialect (.slice Element render) where
  elementValue := value
  restValue elements := .list (elements.map value)
  literal _ := missingLeaf
  pattern _ := missingLeaf
  anyCharacter := missingLeaf
  satisfy description test := satisfy value description test.accepts
  take := take value
  same wanted := satisfy value "same" fun element => element.equalElement wanted

end

def bytesDialect : Dialect .bytes := sliceDialect fun byte => .integer (Int.ofNat byte.toNat)

def integersDialect : Dialect .integers := sliceDialect .integer

def charactersDialect : Dialect .characters := sliceDialect .character

def stringsDialect : Dialect .strings := sliceDialect .text

/-- A tuple of parsers yields a tuple of values. -/
def tupleOf (parts : List (ScriptParser medium)) : ScriptParser medium :=
  map Value.tuple (sequenceOf parts)

def listOf (parts : List (ScriptParser medium)) : ScriptParser medium :=
  map Value.list (sequenceOf parts)

/-- The same parser runs twice. -/
def twice (parser : ScriptParser medium) : ScriptParser medium := tupleOf [parser, parser]

def many (parser : ScriptParser medium) : ScriptParser medium := map Value.list (.many parser)

def manyOne (parser : ScriptParser medium) : ScriptParser medium :=
  map Value.list (.manyOne parser)

def sepBy (separator item : ScriptParser medium) : ScriptParser medium :=
  map Value.list (.sepBy separator item)

/-- A value that may be absent. -/
def ofOption : Option Value → Value
  | none => .absent
  | some content => .present content

def optional (parser : ScriptParser medium) : ScriptParser medium :=
  map ofOption (.optional parser)

/-- The function pairs its own value with the argument. -/
def apPair (function argument : ScriptParser medium) : ScriptParser medium :=
  ap (map (fun first second => .tuple [first, second]) function) argument

/-- A function of three arguments gets them one by one. -/
def apTriple (first second third : ScriptParser medium) : ScriptParser medium :=
  ap (ap (ap (succeed fun first second third => Value.tuple [first, second, third]) first)
    second) third

/-- The text of a value is read as another value. -/
def parseFlat (reader : Reader Value) (parser : ScriptParser medium) : ScriptParser medium :=
  parseAs reader (map Value.flat parser)

end ParserCombinators.Script
