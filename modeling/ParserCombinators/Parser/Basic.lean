/-
This file defines parsers and grammars as data. A parser is a tree of leaves and combinators, and
a grammar gives a parser for every rule.
-/

import ParserCombinators.Behaviour.Repetition

namespace ParserCombinators

/-- A signature says what parsers read, what plain functions remember, and which rules they may
name with which results. -/
structure Signature where
  medium : Medium
  Memory : Type
  Rule : Type
  result : Rule → Type

/-- Parsers that stand in several places of a tree share what they remember. A rule is named and
looked up only when it runs, so rules may be recursive. -/
inductive Parser (signature : Signature) : Type → Type 1
  | leaf {A : Type} (wanted : Leaf signature.medium A) : Parser signature A
  | function {A : Type}
      (run : Cursor signature.medium → signature.Memory →
        Reading signature.medium A × signature.Memory) : Parser signature A
  | succeed {A : Type} (value : A) : Parser signature A
  | fail {A : Type} (reason : Failure) : Parser signature A
  | map {A B : Type} (convert : A → B) (parser : Parser signature A) : Parser signature B
  | chain {A B : Type} (parser : Parser signature A) (next : A → Parser signature B) :
      Parser signature B
  | ap {A B : Type} (function : Parser signature (A → B)) (argument : Parser signature A) :
      Parser signature B
  | mapError {A : Type} (convert : Failure → Failure) (parser : Parser signature A) :
      Parser signature A
  | label {A : Type} (name : String) (parser : Parser signature A) : Parser signature A
  | parseAs {A : Type} (reader : Reader A) (parser : Parser signature String) :
      Parser signature A
  | sequence {types : List Type}
      (parts : (part : Fin types.length) → Parser signature (types.get part)) :
      Parser signature (Tuple types)
  | sequenceList {A : Type} {count : Nat} (parts : Fin count → Parser signature A) :
      Parser signature (List A)
  | choice {A : Type} {count : Nat} (alternatives : Fin count → Parser signature A) :
      Parser signature A
  | many {A : Type} (parser : Parser signature A) : Parser signature (List A)
  | manyOne {A : Type} (parser : Parser signature A) : Parser signature (List A)
  | sepBy {A B : Type} (separator : Parser signature B) (item : Parser signature A) :
      Parser signature (List A)
  | optional {A : Type} (parser : Parser signature A) : Parser signature (Option A)
  | rule (name : signature.Rule) : Parser signature (signature.result name)
  | fresh {A : Type} (memory : signature.Memory) (parser : Parser signature A) :
      Parser signature A

/-- A grammar gives a parser for every rule. -/
abbrev Grammar (signature : Signature) :=
  (rule : signature.Rule) → Parser signature (signature.result rule)

namespace Parser

variable {signature : Signature} {A B C : Type}

/-- The behaviours of the rules are given. Repetitions make at most `fuel` rounds. -/
def behaviour
    (call : (rule : signature.Rule) →
      Behaviour signature.medium signature.Memory (signature.result rule))
    (fuel : Nat) : {A : Type} → Parser signature A →
    Behaviour signature.medium signature.Memory A
  | _, .leaf wanted => .leaf wanted
  | _, .function run => .function run
  | _, .succeed value => .succeed value
  | _, .fail reason => .fail reason
  | _, .map convert parser => .map convert (parser.behaviour call fuel)
  | _, .chain parser next =>
      .chain (parser.behaviour call fuel) fun value => (next value).behaviour call fuel
  | _, .ap applied argument => .ap (applied.behaviour call fuel) (argument.behaviour call fuel)
  | _, .mapError convert parser => .mapError convert (parser.behaviour call fuel)
  | _, .label name parser => .label name (parser.behaviour call fuel)
  | _, .parseAs reader parser => .parseAs reader (parser.behaviour call fuel)
  | _, .sequence parts => .sequence fun part => (parts part).behaviour call fuel
  | _, .sequenceList parts =>
      .sequenceList (List.ofFn fun part => (parts part).behaviour call fuel)
  | _, .choice alternatives =>
      .choice (List.ofFn fun index => (alternatives index).behaviour call fuel)
  | _, .many parser => .many fuel (parser.behaviour call fuel)
  | _, .manyOne parser => .manyOne fuel (parser.behaviour call fuel)
  | _, .sepBy separator item =>
      .sepBy fuel (separator.behaviour call fuel) (item.behaviour call fuel)
  | _, .optional parser => .optional (parser.behaviour call fuel)
  | _, .rule name => .announce .lazy (call name)
  | _, .fresh memory parser => .fresh memory (parser.behaviour call fuel)

/-- Both sides of a result are converted. -/
def bimap (convert : A → B) (convertError : Failure → Failure) (parser : Parser signature A) :
    Parser signature B :=
  mapError convertError (map convert parser)

/-- Two parsers one after the other. -/
def pair (first : Parser signature A) (second : Parser signature B) : Parser signature (A × B) :=
  map (fun (values : A × B × Unit) => (values.1, values.2.1))
    (sequence (fun | 0 => first | 1 => second :
      (part : Fin [A, B].length) → Parser signature ([A, B].get part)))

/-- The content between a left and a right parser, of which only the content's value is kept. -/
def between (left : Parser signature A) (right : Parser signature B)
    (content : Parser signature C) : Parser signature C :=
  map (fun (values : A × C × B × Unit) => values.2.1)
    (sequence (fun | 0 => left | 1 => content | 2 => right :
      (part : Fin [A, C, B].length) → Parser signature ([A, C, B].get part)))

/-- The first of these alternatives that succeeds. -/
def choiceOf (alternatives : List (Parser signature A)) : Parser signature A :=
  choice alternatives.get

/-- All of these parsers in order. -/
def sequenceOf (parts : List (Parser signature A)) : Parser signature (List A) :=
  sequenceList parts.get

/-- A plain function that remembers nothing. -/
def pureFunction (run : Cursor signature.medium → Reading signature.medium A) :
    Parser signature A :=
  function fun cursor memory => (run cursor, memory)

end Parser

namespace Grammar

variable {signature : Signature}

/-- A rule called with fuel gives the rules it calls one unit less. -/
def call (grammar : Grammar signature) : Nat → (rule : signature.Rule) →
    Behaviour signature.medium signature.Memory (signature.result rule)
  | 0, _ => fun _ _ => .unfinished
  | fuel + 1, rule => (grammar rule).behaviour (grammar.call fuel) fuel

/-- Fuel limits the depth of calls and the rounds of every repetition. -/
def outcome (grammar : Grammar signature) (fuel : Nat) {A : Type} (parser : Parser signature A) :
    Behaviour signature.medium signature.Memory A :=
  parser.behaviour (grammar.call fuel) fuel

/-- The parser runs from the beginning of the input. -/
def run (grammar : Grammar signature) (fuel : Nat) {A : Type} (parser : Parser signature A)
    (input : List signature.medium.Element) (memory : signature.Memory) :
    Outcome signature.medium signature.Memory A :=
  grammar.outcome fuel parser (.start input) (.initial memory)

end Grammar

end ParserCombinators
