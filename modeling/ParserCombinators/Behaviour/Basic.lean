/-
This file defines what a parser does: it takes a cursor and a session and has an outcome.
-/

import ParserCombinators.Leaf
import ParserCombinators.Reader.Basic

namespace ParserCombinators

open Text

/-- A session holds the label in force, what parsers remember, and the events so far, latest
first. -/
structure Session (Memory : Type) where
  label : String
  memory : Memory
  events : List Event

namespace Session

variable {Memory : Type}

def initial (memory : Memory) : Session Memory := ⟨"", memory, []⟩

def record (session : Session Memory) (index : Nat) (operation : Operation)
    (progress : Progress) : Session Memory :=
  { session with events := ⟨index, session.label, operation, progress⟩ :: session.events }

/-- Without an operation nothing is recorded. -/
def recordSome (session : Session Memory) (index : Nat) (operation : Option Operation)
    (progress : Progress) : Session Memory :=
  match operation with
  | some operation => session.record index operation progress
  | none => session

def labelled (session : Session Memory) (label : String) : Session Memory :=
  { session with label := label }

def remembering (session : Session Memory) (memory : Memory) : Session Memory :=
  { session with memory := memory }

/-- The events in the order in which they happened. -/
def history (session : Session Memory) : List Event := session.events.reverse

/-- The lines of the trace show the history. -/
def trace {medium : Medium} (session : Session Memory) (input : List medium.Element) :
    List String :=
  session.history.map (Event.line input)

end Session

/-- An outcome is unfinished when the fuel ran out before the parser returned. -/
inductive Outcome (medium : Medium) (Memory A : Type)
  | unfinished
  | fault (problem : Fault)
  | failure (reason : Failure) (session : Session Memory)
  | success (cursor : Cursor medium) (value : A) (session : Session Memory)

namespace Outcome

variable {medium : Medium} {Memory A B : Type}

/-- A success and a failure each go on in their own way. An outcome that is neither stays. -/
@[inline] def resolve (outcome : Outcome medium Memory A)
    (succeeded : Cursor medium → A → Session Memory → Outcome medium Memory B)
    (failed : Failure → Session Memory → Outcome medium Memory B) : Outcome medium Memory B :=
  match outcome with
  | .unfinished => .unfinished
  | .fault problem => .fault problem
  | .failure reason session => failed reason session
  | .success cursor value session => succeeded cursor value session

/-- A success goes on. Any other outcome stays as it is. -/
@[inline] def andThen (outcome : Outcome medium Memory A)
    (next : Cursor medium → A → Session Memory → Outcome medium Memory B) :
    Outcome medium Memory B :=
  outcome.resolve next .failure

/-- A failure is handled. Any other outcome stays as it is. -/
@[inline] def orElse (outcome : Outcome medium Memory A)
    (handle : Failure → Session Memory → Outcome medium Memory A) : Outcome medium Memory A :=
  outcome.resolve .success handle

/-- The session changes, whether the parser succeeded or failed. -/
def mapSession (change : Session Memory → Session Memory) (outcome : Outcome medium Memory A) :
    Outcome medium Memory A :=
  outcome.resolve (fun cursor value session => .success cursor value (change session))
    fun reason session => .failure reason (change session)

end Outcome

abbrev Behaviour (medium : Medium) (Memory A : Type) :=
  Cursor medium → Session Memory → Outcome medium Memory A

namespace Behaviour

variable {medium : Medium} {Memory A B : Type}

/-- A leaf records a success at the new position and a failure at the old one. -/
def leaf (leaf : Leaf medium A) : Behaviour medium Memory A := fun cursor session =>
  match leaf.read cursor with
  | .fault problem => .fault problem
  | .success next value =>
      .success next value (session.recordSome next.index leaf.operation .succeeded)
  | .failure reason =>
      .failure reason (session.recordSome cursor.index leaf.operation (.failed reason))

/-- A plain function reads the input and may change what it remembers. It records no event. -/
def function (run : Cursor medium → Memory → Reading medium A × Memory) :
    Behaviour medium Memory A := fun cursor session =>
  match run cursor session.memory with
  | (.fault problem, _) => .fault problem
  | (.failure reason, memory) => .failure reason (session.remembering memory)
  | (.success next value, memory) => .success next value (session.remembering memory)

def succeed (value : A) : Behaviour medium Memory A := fun cursor session =>
  .success cursor value session

def fail (reason : Failure) : Behaviour medium Memory A := fun _ session =>
  .failure reason session

def map (convert : A → B) (parser : Behaviour medium Memory A) : Behaviour medium Memory B :=
  fun cursor session => (parser cursor session).andThen fun cursor value session =>
    .success cursor (convert value) session

/-- The value chooses the parser that goes on. -/
def chain (parser : Behaviour medium Memory A) (next : A → Behaviour medium Memory B) :
    Behaviour medium Memory B :=
  fun cursor session => (parser cursor session).andThen fun cursor value session =>
    next value cursor session

theorem map_map {C : Type} (convert : A → B) (convert' : B → C)
    (parser : Behaviour medium Memory A) :
    map convert' (map convert parser) = map (convert' ∘ convert) parser := by
  funext cursor session
  show ((parser cursor session).andThen _).andThen _ = (parser cursor session).andThen _
  cases parser cursor session <;> rfl

theorem map_chain {C : Type} (convert : B → C) (parser : Behaviour medium Memory A)
    (next : A → Behaviour medium Memory B) :
    map convert (chain parser next) = chain parser fun value => map convert (next value) := by
  funext cursor session
  show ((parser cursor session).andThen _).andThen _ = (parser cursor session).andThen _
  cases parser cursor session <;> rfl

/-- The function is parsed before its argument. -/
def ap (function : Behaviour medium Memory (A → B)) (argument : Behaviour medium Memory A) :
    Behaviour medium Memory B :=
  fun cursor session => (function cursor session).andThen fun cursor convert session =>
    (argument cursor session).andThen fun cursor value session =>
      .success cursor (convert value) session

def mapError (convert : Failure → Failure) (parser : Behaviour medium Memory A) :
    Behaviour medium Memory A :=
  fun cursor session => (parser cursor session).orElse fun reason session =>
    .failure (convert reason) session

/-- The operation is recorded before the parser runs. -/
def announce (operation : Operation) (parser : Behaviour medium Memory A) :
    Behaviour medium Memory A :=
  fun cursor session => parser cursor (session.record cursor.index operation .began)

/-- A failure is recorded at the position where the parser began. -/
def failRecorded (operation : Operation) (reason : Failure) : Behaviour medium Memory A :=
  fun cursor session =>
    .failure reason (session.record cursor.index operation (.failed reason))

/-- A success is recorded at the position it has reached. -/
def succeedRecorded (operation : Operation) (value : A) : Behaviour medium Memory A :=
  fun cursor session =>
    .success cursor value (session.record cursor.index operation .succeeded)

def ruleFailure (name : String) (index : Nat) (cause : Failure) : Failure :=
  (Failure.newAt (.rule name) ("expected " ++ name) index).causedBy cause

/-- The label is in force while the parser runs, and then the outer label is again. A failure
names the rule. -/
def label (name : String) (parser : Behaviour medium Memory A) : Behaviour medium Memory A :=
  fun cursor session =>
    ((announce (.label name) parser cursor (session.labelled name)).orElse
      fun cause session =>
        failRecorded (.label name) (ruleFailure name cursor.index cause) cursor session).mapSession
      fun final => final.labelled session.label

def readerFailure (target text : String) (index : Nat) : Failure :=
  .newAt (.custom "FromStr") ("cannot read " ++ quoteText text ++ " as " ++ target) index

/-- The parsed text is read as a whole. A text that cannot be read is a failure at the beginning
of the parse. -/
def parseAs (reader : Reader A) (parser : Behaviour medium Memory String) :
    Behaviour medium Memory A :=
  fun cursor session => (parser cursor session).andThen fun next text session =>
    match reader.read text with
    | some value => .success next value session
    | none =>
        failRecorded (.parseAs reader.name) (readerFailure reader.name text cursor.index)
          cursor session

/-- The parser works on a memory of its own, which is forgotten afterwards. -/
def fresh (memory : Memory) (parser : Behaviour medium Memory A) : Behaviour medium Memory A :=
  fun cursor session =>
    (parser cursor (session.remembering memory)).mapSession fun final =>
      final.remembering session.memory

end Behaviour

end ParserCombinators
