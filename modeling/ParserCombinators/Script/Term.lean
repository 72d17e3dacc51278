/-
This file defines scripts as data and builds parsers from them.
-/

import ParserCombinators.Script.Parser

namespace ParserCombinators.Script

open ParserCombinators.Parser

mutual

/-- A term describes a parser. -/
inductive Term
  | literal (expected : String)
  | pattern (wanted : Pattern)
  | anyCharacter
  | satisfy (description : String) (test : ElementTest)
  | take (count : Nat)
  | endOfInput
  | zeroWidth (budget : Nat)
  | tuple (parts : List Term)
  | list (parts : List Term)
  | choice (alternatives : List Term)
  | between (left right content : Term)
  | many (body : Term)
  | manyOne (body : Term)
  | sepBy (separator item : Term)
  | optional (body : Term)
  | rule (name : String)
  | map (transform : Transform) (body : Term)
  | chain (body : Term) (next : Continuation)
  | mapError (transform : ErrorTransform) (body : Term)
  | label (name : String) (body : Term)
  | apPair (applied argument : Term)
  | apTriple (first second third : Term)
  | parseAs (reader : Reader Value) (body : Term)
  | succeed (value : Value)
  | fail (reason : Failure)
  | twice (body : Term)

/-- A continuation chooses the parser that goes on by the value before it. -/
inductive Continuation
  | run (next : Term)
  | keep (next : Term)
  | times (next : Term)
  | switch (cases : Cases)
  | reject (name : String)
  | give
  | same
  | take

/-- Cases are tried in order, and the last one serves any other text. -/
inductive Cases
  | case (text : String) (chosen : Term) (rest : Cases)
  | otherwise (chosen : Term)

end

/-- An assembly is a parser together with the number of counters in it. -/
structure Assembly (medium : Medium) where
  parser : ScriptParser medium
  counters : Nat

namespace Assembly

variable {medium : Medium}

/-- All counters of a parser that has just been built are at zero. -/
def memory (assembly : Assembly medium) : Counters := List.replicate assembly.counters 0

/-- The parser is built anew whenever it runs, so its counters begin at zero. -/
def anew (assembly : Assembly medium) : ScriptParser medium :=
  fresh assembly.memory assembly.parser

/-- The parser is wrapped and keeps its counters. -/
def wrap (assembly : Assembly medium) (change : ScriptParser medium → ScriptParser medium) :
    Assembly medium :=
  ⟨change assembly.parser, assembly.counters⟩

end Assembly

mutual

/-- Counters are numbered from left to right. The first number and the number after the last one
are passed along. -/
def Term.build {medium : Medium} (dialect : Dialect medium) (counters : Nat) :
    Term → Assembly medium
  | .literal expected => ⟨dialect.literal expected, counters⟩
  | .pattern wanted => ⟨dialect.pattern wanted, counters⟩
  | .anyCharacter => ⟨dialect.anyCharacter, counters⟩
  | .satisfy description test => ⟨dialect.satisfy description test, counters⟩
  | .take count => ⟨dialect.take count, counters⟩
  | .endOfInput => ⟨endOfInput, counters⟩
  | .zeroWidth budget => ⟨zeroWidth counters budget, counters + 1⟩
  | .tuple parts =>
      let built := Term.buildAll dialect counters parts
      ⟨tupleOf built.1, built.2⟩
  | .list parts =>
      let built := Term.buildAll dialect counters parts
      ⟨listOf built.1, built.2⟩
  | .choice alternatives =>
      let built := Term.buildAll dialect counters alternatives
      ⟨choiceOf built.1, built.2⟩
  | .between left right content =>
      let left := left.build dialect counters
      let right := right.build dialect left.counters
      let content := content.build dialect right.counters
      ⟨Parser.between left.parser right.parser content.parser, content.counters⟩
  | .many body => (body.build dialect counters).wrap many
  | .manyOne body => (body.build dialect counters).wrap manyOne
  | .sepBy separator item =>
      let separator := separator.build dialect counters
      let item := item.build dialect separator.counters
      ⟨sepBy separator.parser item.parser, item.counters⟩
  | .optional body => (body.build dialect counters).wrap optional
  | .rule name => ⟨rule name, counters⟩
  | .map transform body => (body.build dialect counters).wrap (.map transform.apply)
  | .chain body next =>
      let continuation := next.build dialect
      (body.build dialect counters).wrap fun parser => .chain parser continuation
  | .mapError transform body => (body.build dialect counters).wrap (.mapError transform.apply)
  | .label name body => (body.build dialect counters).wrap (.label name)
  | .apPair applied argument =>
      let applied := applied.build dialect counters
      let argument := argument.build dialect applied.counters
      ⟨apPair applied.parser argument.parser, argument.counters⟩
  | .apTriple first second third =>
      let first := first.build dialect counters
      let second := second.build dialect first.counters
      let third := third.build dialect second.counters
      ⟨apTriple first.parser second.parser third.parser, third.counters⟩
  | .parseAs reader body => (body.build dialect counters).wrap (parseFlat reader)
  | .succeed value => ⟨Parser.succeed value, counters⟩
  | .fail reason => ⟨Parser.fail reason, counters⟩
  | .twice body => (body.build dialect counters).wrap twice

def Term.buildAll {medium : Medium} (dialect : Dialect medium) (counters : Nat) :
    List Term → List (ScriptParser medium) × Nat
  | [] => ([], counters)
  | term :: terms =>
      let built := term.build dialect counters
      let others := Term.buildAll dialect built.counters terms
      (built.parser :: others.1, others.2)

/-- What goes on after a value is built anew each time. -/
def Continuation.build {medium : Medium} (dialect : Dialect medium) :
    Continuation → Value → ScriptParser medium
  | .run next =>
      let next := next.build dialect 0
      fun _ => next.anew
  | .keep next =>
      let next := next.build dialect 0
      fun value => .map (fun other => Value.tuple [value, other]) next.anew
  | .times next =>
      let next := next.build dialect 0
      fun value => listOf (List.replicate value.rounds next.anew)
  | .switch cases =>
      let choose := cases.build dialect
      fun value => choose value.flat
  | .reject name => fun value =>
      .fail (.new (.custom name) ("rejected " ++ value.flat))
  | .give => fun value => .succeed value
  | .same => dialect.same
  | .take => fun value => dialect.take value.rounds

def Cases.build {medium : Medium} (dialect : Dialect medium) :
    Cases → String → ScriptParser medium
  | .case text chosen rest =>
      let chosen := chosen.build dialect 0
      let rest := rest.build dialect
      fun wanted => if wanted = text then chosen.anew else rest wanted
  | .otherwise chosen =>
      let chosen := chosen.build dialect 0
      fun _ => chosen.anew

end

/-- The rules of a script by their names. -/
abbrev Rules (medium : Medium) := List (String × Assembly medium)

def buildRules {medium : Medium} (dialect : Dialect medium) (rules : List (String × Term)) :
    Rules medium :=
  rules.map fun rule => (rule.1, rule.2.build dialect 0)

/-- A rule is built anew whenever it runs. The names that occur in a script are all known. -/
def Rules.grammar {medium : Medium} (rules : Rules medium) : Grammar (signature medium) :=
  fun name =>
    match rules.lookup name with
    | some assembly => assembly.anew
    | none => .fail (.new (.rule name) "unknown rule")

end ParserCombinators.Script
