/-
This file lets parsers give an account of a parse. An account knows nothing of the label in force.
It says how the parse ended and keeps a log, in which all that is recorded while the parse of a
label is in progress is one scope.
-/

import ParserCombinators.Parser.Basic

namespace ParserCombinators

/-- A log consists of lines without a label and of scopes with a name. -/
inductive Entry
  | line (index : Nat) (operation : Operation) (progress : Progress)
  | scope (name : String) (entries : List Entry)

namespace Entry

mutual

/-- A line shows the name of the innermost scope around it. The given label is for lines that stand
in no scope. -/
def events (label : String) : Entry → List Event
  | .line index operation progress => [⟨index, label, operation, progress⟩]
  | .scope name entries => eventsOfAll name entries

def eventsOfAll (label : String) : List Entry → List Event
  | [] => []
  | entry :: entries => events label entry ++ eventsOfAll label entries

end

theorem eventsOfAll_append (label : String) (first second : List Entry) :
    eventsOfAll label (first ++ second) = eventsOfAll label first ++ eventsOfAll label second := by
  induction first with
  | nil => rfl
  | cons entry first inductionHypothesis =>
      rw [List.cons_append, eventsOfAll, eventsOfAll, inductionHypothesis, List.append_assoc]

theorem eventsOfAll_scope (label name : String) (entries : List Entry) :
    eventsOfAll label [.scope name entries] = eventsOfAll name entries := by
  rw [eventsOfAll, events, eventsOfAll, List.append_nil]

end Entry

/-- An account says how a parse ended, what is remembered then, and what was recorded. -/
inductive Account (medium : Medium) (Memory A : Type)
  | unfinished
  | fault (problem : Fault)
  | failure (reason : Failure) (memory : Memory) (log : List Entry)
  | success (cursor : Cursor medium) (value : A) (memory : Memory) (log : List Entry)

namespace Account

variable {medium : Medium} {Memory A B : Type}

def changed (account : Account medium Memory A) (changeMemory : Memory → Memory)
    (changeLog : List Entry → List Entry) : Account medium Memory A :=
  match account with
  | .unfinished => .unfinished
  | .fault problem => .fault problem
  | .failure reason memory log => .failure reason (changeMemory memory) (changeLog log)
  | .success cursor value memory log =>
      .success cursor value (changeMemory memory) (changeLog log)

/-- All this was recorded earlier. -/
def after (account : Account medium Memory A) (earlier : List Entry) : Account medium Memory A :=
  account.changed id (earlier ++ ·)

/-- All that is recorded is in one scope. -/
def within (account : Account medium Memory A) (name : String) : Account medium Memory A :=
  account.changed id fun log => [.scope name log]

def remembering (account : Account medium Memory A) (memory : Memory) :
    Account medium Memory A :=
  account.changed (fun _ => memory) id

/-- A success and a failure each go on in their own way, and the log goes on with them. -/
def resolve (account : Account medium Memory A)
    (succeeded : Cursor medium → A → Memory → Account medium Memory B)
    (failed : Failure → Memory → Account medium Memory B) : Account medium Memory B :=
  match account with
  | .unfinished => .unfinished
  | .fault problem => .fault problem
  | .failure reason memory log => (failed reason memory).after log
  | .success cursor value memory log => (succeeded cursor value memory).after log

def andThen (account : Account medium Memory A)
    (next : Cursor medium → A → Memory → Account medium Memory B) : Account medium Memory B :=
  account.resolve next fun reason memory => .failure reason memory []

def orElse (account : Account medium Memory A)
    (handle : Failure → Memory → Account medium Memory A) : Account medium Memory A :=
  account.resolve (fun cursor value memory => .success cursor value memory []) handle

end Account

/-- A narrative gives an account of every parse. Narratives are combined just as behaviours are. -/
abbrev Narrative (medium : Medium) (Memory A : Type) :=
  Cursor medium → Memory → Account medium Memory A

namespace Narrative

variable {medium : Medium} {Memory A B : Type}

/-- A leaf without an operation records nothing. -/
def logOf (index : Nat) (operation : Option Operation) (progress : Progress) : List Entry :=
  match operation with
  | some operation => [.line index operation progress]
  | none => []

def leaf (leaf : Leaf medium A) : Narrative medium Memory A := fun cursor memory =>
  match leaf.read cursor with
  | .fault problem => .fault problem
  | .success next value =>
      .success next value memory (logOf next.index leaf.operation .succeeded)
  | .failure reason =>
      .failure reason memory (logOf cursor.index leaf.operation (.failed reason))

def function (run : Cursor medium → Memory → Reading medium A × Memory) :
    Narrative medium Memory A := fun cursor memory =>
  match run cursor memory with
  | (.fault problem, _) => .fault problem
  | (.failure reason, memory) => .failure reason memory []
  | (.success next value, memory) => .success next value memory []

def succeed (value : A) : Narrative medium Memory A := fun cursor memory =>
  .success cursor value memory []

def fail (reason : Failure) : Narrative medium Memory A := fun _ memory =>
  .failure reason memory []

def failRecorded (operation : Operation) (reason : Failure) : Narrative medium Memory A :=
  fun cursor memory =>
    .failure reason memory [.line cursor.index operation (.failed reason)]

def succeedRecorded (operation : Operation) (value : A) : Narrative medium Memory A :=
  fun cursor memory =>
    .success cursor value memory [.line cursor.index operation .succeeded]

def announce (operation : Operation) (parser : Narrative medium Memory A) :
    Narrative medium Memory A :=
  fun cursor memory => (parser cursor memory).after [.line cursor.index operation .began]

def map (convert : A → B) (parser : Narrative medium Memory A) : Narrative medium Memory B :=
  fun cursor memory => (parser cursor memory).andThen fun cursor value memory =>
    succeed (convert value) cursor memory

def chain (parser : Narrative medium Memory A) (next : A → Narrative medium Memory B) :
    Narrative medium Memory B :=
  fun cursor memory => (parser cursor memory).andThen fun cursor value memory =>
    next value cursor memory

def ap (function : Narrative medium Memory (A → B)) (argument : Narrative medium Memory A) :
    Narrative medium Memory B :=
  chain function fun convert => map convert argument

def mapError (convert : Failure → Failure) (parser : Narrative medium Memory A) :
    Narrative medium Memory A :=
  fun cursor memory => (parser cursor memory).orElse fun reason memory =>
    fail (convert reason) cursor memory

/-- The scope begins with the line of the label itself. When the parse fails, it ends with the line
of that failure. -/
def label (name : String) (parser : Narrative medium Memory A) : Narrative medium Memory A :=
  fun cursor memory =>
    ((announce (.label name) parser cursor memory).orElse fun cause memory =>
      failRecorded (.label name) (Behaviour.ruleFailure name cursor.index cause) cursor
        memory).within name

def parseAs (reader : Reader A) (parser : Narrative medium Memory String) :
    Narrative medium Memory A :=
  fun cursor memory => (parser cursor memory).andThen fun next text memory =>
    match reader.read text with
    | some value => succeed value next memory
    | none =>
        failRecorded (.parseAs reader.name)
          (Behaviour.readerFailure reader.name text cursor.index) cursor memory

def fresh (memory : Memory) (parser : Narrative medium Memory A) : Narrative medium Memory A :=
  fun cursor outer => (parser cursor memory).remembering outer

def tuple : {types : List Type} →
    ((part : Fin types.length) → Narrative medium Memory (types.get part)) →
    Narrative medium Memory (Tuple types)
  | [], _ => succeed ()
  | _ :: _, parts =>
      chain (parts ⟨0, Nat.succ_pos _⟩) fun first =>
        map (fun others => (first, others)) (tuple fun part => parts part.succ)

def row : List (Narrative medium Memory A) → Narrative medium Memory (List A)
  | [] => succeed []
  | parser :: parsers => chain parser fun first => map (first :: ·) (row parsers)

def sequence {types : List Type}
    (parts : (part : Fin types.length) → Narrative medium Memory (types.get part)) :
    Narrative medium Memory (Tuple types) :=
  announce (.sequence types.length) (tuple parts)

def sequenceList (parsers : List (Narrative medium Memory A)) : Narrative medium Memory (List A) :=
  announce (.sequence parsers.length) (row parsers)

def attempt (failures : List Failure) :
    List (Narrative medium Memory A) → Narrative medium Memory A
  | [] => fun cursor =>
      failRecorded .choiceFailed (Behaviour.choiceFailure cursor.index failures) cursor
  | parser :: parsers => fun cursor memory =>
      (parser cursor memory).orElse fun failure memory =>
        attempt (failures ++ [failure]) parsers cursor memory

def choice (parsers : List (Narrative medium Memory A)) : Narrative medium Memory A :=
  announce (.choice parsers.length) (attempt [] parsers)

def optional (parser : Narrative medium Memory A) : Narrative medium Memory (Option A) :=
  fun cursor memory =>
    (map some parser cursor memory).orElse fun _ memory =>
      succeedRecorded .optional none cursor memory

def repeatFrom (parser : Narrative medium Memory A) :
    Nat → List A → Narrative medium Memory (List A)
  | 0, _ => fun _ _ => .unfinished
  | fuel + 1, values => fun cursor memory =>
      (parser cursor memory).resolve
        (fun next value memory => repeatFrom parser fuel (value :: values) next memory)
        fun _ memory => succeed values.reverse cursor memory

def recordCount (operation : Nat → Operation) (parser : Narrative medium Memory (List A)) :
    Narrative medium Memory (List A) :=
  chain parser fun values => succeedRecorded (operation values.length) values

def many (fuel : Nat) (parser : Narrative medium Memory A) : Narrative medium Memory (List A) :=
  announce .many (recordCount .manyEnd (repeatFrom parser fuel []))

def manyOne (fuel : Nat) (parser : Narrative medium Memory A) :
    Narrative medium Memory (List A) :=
  announce .manyOne fun cursor memory =>
    (parser cursor memory).resolve
      (fun next first memory =>
        recordCount .manyOneEnd (repeatFrom parser fuel [first]) next memory)
      fun cause memory =>
        failRecorded .manyOne (Behaviour.manyOneFailure cursor.index cause) cursor memory

def sepBy (fuel : Nat) (separator : Narrative medium Memory B)
    (item : Narrative medium Memory A) : Narrative medium Memory (List A) :=
  announce .sepBy fun cursor memory =>
    (item cursor memory).resolve
      (fun next first memory =>
        recordCount .sepByEnd (repeatFrom (chain separator fun _ => item) fuel [first]) next
          memory)
      fun _ memory => succeed [] cursor memory

end Narrative

variable {signature : Signature}

/-- The narratives of the rules are given. -/
def Parser.narrative
    (call : (rule : signature.Rule) →
      Narrative signature.medium signature.Memory (signature.result rule))
    (fuel : Nat) : {A : Type} → Parser signature A →
    Narrative signature.medium signature.Memory A
  | _, .leaf wanted => .leaf wanted
  | _, .function run => .function run
  | _, .succeed value => .succeed value
  | _, .fail reason => .fail reason
  | _, .map convert parser => .map convert (parser.narrative call fuel)
  | _, .chain parser next =>
      .chain (parser.narrative call fuel) fun value => (next value).narrative call fuel
  | _, .ap applied argument => .ap (applied.narrative call fuel) (argument.narrative call fuel)
  | _, .mapError convert parser => .mapError convert (parser.narrative call fuel)
  | _, .label name parser => .label name (parser.narrative call fuel)
  | _, .parseAs reader parser => .parseAs reader (parser.narrative call fuel)
  | _, .sequence parts => .sequence fun part => (parts part).narrative call fuel
  | _, .sequenceList parts =>
      .sequenceList (List.ofFn fun part => (parts part).narrative call fuel)
  | _, .choice alternatives =>
      .choice (List.ofFn fun index => (alternatives index).narrative call fuel)
  | _, .many parser => .many fuel (parser.narrative call fuel)
  | _, .manyOne parser => .manyOne fuel (parser.narrative call fuel)
  | _, .sepBy separator item =>
      .sepBy fuel (separator.narrative call fuel) (item.narrative call fuel)
  | _, .optional parser => .optional (parser.narrative call fuel)
  | _, .rule name => .announce .lazy (call name)
  | _, .fresh memory parser => .fresh memory (parser.narrative call fuel)

namespace Grammar

/-- A rule called with fuel gives the rules it calls one unit less. -/
def told (grammar : Grammar signature) : Nat → (rule : signature.Rule) →
    Narrative signature.medium signature.Memory (signature.result rule)
  | 0, _ => fun _ _ => .unfinished
  | fuel + 1, rule => (grammar rule).narrative (grammar.told fuel) fuel

/-- The account that a parse with this much fuel gives. -/
def account (grammar : Grammar signature) (fuel : Nat) {A : Type} (parser : Parser signature A) :
    Narrative signature.medium signature.Memory A :=
  parser.narrative (grammar.told fuel) fuel

end Grammar

end ParserCombinators
