/-
This file watches the calls that a combinator makes of its parts. The calls are noted beside what
the parts remember, and notes alone change nothing. A condition on the calls so far can stop a run
that would go on for ever. Any number of parts are told apart by their numbers.
-/

import ParserCombinators.Proofs.Label.Scope

namespace ParserCombinators

variable {medium : Medium} {Memory A B : Type}

/-- The parts of a list with separators. -/
inductive Part
  | separator
  | item

/-- A part is called at a cursor. -/
structure Call (medium : Medium) where
  part : Part
  cursor : Cursor medium

/-- What the parts remember and the calls so far. -/
structure Watch (medium : Medium) (Memory : Type) where
  memory : Memory
  calls : List (Call medium)

namespace Session

def noting (session : Session Memory) (calls : List (Call medium)) :
    Session (Watch medium Memory) :=
  ⟨session.label, ⟨session.memory, calls⟩, session.events⟩

def forget (session : Session (Watch medium Memory)) : Session Memory :=
  ⟨session.label, session.memory.memory, session.events⟩

end Session

namespace Outcome

def noting (calls : List (Call medium)) :
    Outcome medium Memory A → Outcome medium (Watch medium Memory) A
  | .unfinished => .unfinished
  | .fault problem => .fault problem
  | .failure reason session => .failure reason (session.noting calls)
  | .success cursor value session => .success cursor value (session.noting calls)

def forget : Outcome medium (Watch medium Memory) A → Outcome medium Memory A
  | .unfinished => .unfinished
  | .fault problem => .fault problem
  | .failure reason session => .failure reason session.forget
  | .success cursor value session => .success cursor value session.forget

theorem forget_noting (outcome : Outcome medium Memory A) (calls : List (Call medium)) :
    (outcome.noting calls).forget = outcome := by
  cases outcome <;> rfl

end Outcome

namespace Behaviour

/-- Each call is noted. A call that is not allowed after those before it fails at once. -/
def watched (allowed : List (Call medium) → Bool) (part : Part)
    (behaviour : Behaviour medium Memory A) : Behaviour medium (Watch medium Memory) A :=
  fun cursor session =>
    let calls := session.memory.calls ++ [⟨part, cursor⟩]
    if allowed session.memory.calls then (behaviour cursor session.forget).noting calls
    else .failure (.new (.custom "watched") "not allowed") (session.forget.noting calls)

/-- Without the notes both behaviours are the same. -/
def Forgets (watching : Behaviour medium (Watch medium Memory) A)
    (plain : Behaviour medium Memory A) : Prop :=
  ∀ cursor session, (watching cursor session).forget = plain cursor session.forget

theorem watched_forgets (part : Part) (behaviour : Behaviour medium Memory A) :
    (watched (fun _ => true) part behaviour).Forgets behaviour :=
  fun cursor session => (behaviour cursor session.forget).forget_noting _

namespace Forgets

variable {watching : Behaviour medium (Watch medium Memory) A} {plain : Behaviour medium Memory A}

theorem resolve (forgets : watching.Forgets plain)
    {succeeded : Cursor medium → A → Session (Watch medium Memory) →
      Outcome medium (Watch medium Memory) B}
    {succeeded' : Cursor medium → A → Session Memory → Outcome medium Memory B}
    {failed : Failure → Session (Watch medium Memory) → Outcome medium (Watch medium Memory) B}
    {failed' : Failure → Session Memory → Outcome medium Memory B}
    (onSuccess : ∀ cursor value session,
      (succeeded cursor value session).forget = succeeded' cursor value session.forget)
    (onFailure : ∀ reason session,
      (failed reason session).forget = failed' reason session.forget)
    (cursor : Cursor medium) (session : Session (Watch medium Memory)) :
    ((watching cursor session).resolve succeeded failed).forget =
      (plain cursor session.forget).resolve succeeded' failed' := by
  rw [← forgets cursor session]
  cases watching cursor session with
  | unfinished => rfl
  | fault problem => rfl
  | failure reason later => exact onFailure reason later
  | success next value later => exact onSuccess next value later

theorem succeed (value : A) :
    (Behaviour.succeed value : Behaviour medium (Watch medium Memory) A).Forgets
      (Behaviour.succeed value) :=
  fun _ _ => rfl

theorem succeedRecorded (operation : Operation) (value : A) :
    (Behaviour.succeedRecorded operation value : Behaviour medium (Watch medium Memory) A).Forgets
      (Behaviour.succeedRecorded operation value) :=
  fun _ _ => rfl

theorem announce (forgets : watching.Forgets plain) (operation : Operation) :
    (Behaviour.announce operation watching).Forgets (Behaviour.announce operation plain) :=
  fun cursor _ => forgets cursor _

theorem chain (forgets : watching.Forgets plain)
    {next : A → Behaviour medium (Watch medium Memory) B} {next' : A → Behaviour medium Memory B}
    (nextForgets : ∀ value, (next value).Forgets (next' value)) :
    (Behaviour.chain watching next).Forgets (Behaviour.chain plain next') :=
  forgets.resolve (fun cursor value session => nextForgets value cursor session) fun _ _ => rfl

theorem map (forgets : watching.Forgets plain) (convert : A → B) :
    (Behaviour.map convert watching).Forgets (Behaviour.map convert plain) :=
  forgets.chain fun value => succeed (convert value)

theorem optional (forgets : watching.Forgets plain) :
    (Behaviour.optional watching).Forgets (Behaviour.optional plain) :=
  fun cursor => (forgets.map some).resolve (fun _ _ _ => rfl) (fun _ _ => rfl) cursor

theorem repeatFrom (forgets : watching.Forgets plain) (fuel : Nat) (values : List A) :
    (Behaviour.repeatFrom watching fuel values).Forgets
      (Behaviour.repeatFrom plain fuel values) := by
  induction fuel generalizing values with
  | zero => exact fun _ _ => rfl
  | succ fuel inductionHypothesis =>
      intro cursor session
      apply forgets.resolve
      · intro next value later
        exact inductionHypothesis (value :: values) next later
      · exact fun _ _ => rfl

theorem recordCount {watching : Behaviour medium (Watch medium Memory) (List A)}
    {plain : Behaviour medium Memory (List A)} (forgets : watching.Forgets plain)
    (operation : Nat → Operation) :
    (Behaviour.recordCount operation watching).Forgets (Behaviour.recordCount operation plain) :=
  forgets.chain fun values => succeedRecorded _ values

theorem many (forgets : watching.Forgets plain) (fuel : Nat) :
    (Behaviour.many fuel watching).Forgets (Behaviour.many fuel plain) :=
  ((forgets.repeatFrom fuel []).recordCount _).announce _

theorem sepBy {separator : Behaviour medium (Watch medium Memory) B}
    {plainSeparator : Behaviour medium Memory B} (forgets : separator.Forgets plainSeparator)
    (itemForgets : watching.Forgets plain) (fuel : Nat) :
    (Behaviour.sepBy fuel separator watching).Forgets
      (Behaviour.sepBy fuel plainSeparator plain) := by
  rw [Behaviour.sepBy_eq, Behaviour.sepBy_eq]
  apply announce
  intro cursor session
  apply itemForgets.resolve
  · intro next value later
    have round := forgets.chain fun _ => itemForgets
    exact (round.repeatFrom fuel [value]).recordCount .sepByEnd next later
  · exact fun _ _ => rfl

end Forgets

/-- Watched parts are alike when the parts are. -/
theorem Alike.watched {first second : Behaviour medium Memory A}
    (alike : first.Alike (.same medium) second) (allowed : List (Call medium) → Bool)
    (part : Part) :
    (Behaviour.watched allowed part first).Alike (.same medium)
      (Behaviour.watched allowed part second) := by
  intro cursor cursor' cursors session session' memories
  obtain rfl := cursors
  have remembered : session.forget.memory = session'.forget.memory :=
    congrArg Watch.memory memories
  have both := alike cursor cursor rfl session.forget session'.forget remembered
  rw [Behaviour.watched, Behaviour.watched, ← memories]
  split
  · generalize first cursor session.forget = outcome at both
    generalize second cursor session'.forget = outcome' at both
    cases both with
    | unfinished => exact .unfinished
    | fault problem => exact .fault problem
    | failure failures memories => exact .failure failures (congrArg (Watch.mk · _) memories)
    | success cursors value memories =>
        exact .success cursors value (congrArg (Watch.mk · _) memories)
  · exact .failure rfl (congrArg (Watch.mk · _) remembered)

end Behaviour

/-- What a parse remembers decides how it ends. Labels and events do not. -/
theorem Grammar.outcome_alike_same {signature : Signature} (grammar : Grammar signature)
    (fuel : Nat) {A : Type} (parser : Parser signature A) :
    (grammar.outcome fuel parser).Alike (.same signature.medium) (grammar.outcome fuel parser) := by
  intro cursor cursor' cursors session session' memories
  obtain rfl := cursors
  have told := grammar.outcome_toldBy fuel parser cursor
  rw [told session, told session', memories]
  exact Account.outcome_alike _ session session'

/-- What the parts remember, and the number of the part and the cursor for each call so far. -/
structure CallLog (medium : Medium) (Memory : Type) where
  memory : Memory
  calls : List (Nat × Cursor medium)

namespace Session

def logging (session : Session Memory) (calls : List (Nat × Cursor medium)) :
    Session (CallLog medium Memory) :=
  ⟨session.label, ⟨session.memory, calls⟩, session.events⟩

def unlogged (session : Session (CallLog medium Memory)) : Session Memory :=
  ⟨session.label, session.memory.memory, session.events⟩

end Session

def Outcome.logging (calls : List (Nat × Cursor medium)) :
    Outcome medium Memory A → Outcome medium (CallLog medium Memory) A
  | .unfinished => .unfinished
  | .fault problem => .fault problem
  | .failure reason session => .failure reason (session.logging calls)
  | .success cursor value session => .success cursor value (session.logging calls)

/-- A call of the part with this number is logged. -/
def Behaviour.logged (number : Nat) (behaviour : Behaviour medium Memory A) :
    Behaviour medium (CallLog medium Memory) A :=
  fun cursor session =>
    (behaviour cursor session.unlogged).logging (session.memory.calls ++ [(number, cursor)])

/-- The calls of the first parts, in order and at these cursors. -/
def callsAlong (cursors : Nat → Cursor medium) (count : Nat) : List (Nat × Cursor medium) :=
  (List.range count).map fun part => (part, cursors part)

theorem callsAlong_succ (cursors : Nat → Cursor medium) (count : Nat) :
    callsAlong cursors (count + 1) = callsAlong cursors count ++ [(count, cursors count)] := by
  rw [callsAlong, List.range_succ, List.map_append]
  rfl

/-- After the calls of earlier parts the next call is logged. -/
theorem Behaviour.logged_logging (behaviour : Behaviour medium Memory A)
    (cursors : Nat → Cursor medium) (number : Nat) (session : Session Memory)
    (calls : List (Nat × Cursor medium)) :
    logged number behaviour (cursors number)
        (session.logging (calls ++ callsAlong cursors number)) =
      (behaviour (cursors number) session).logging (calls ++ callsAlong cursors (number + 1)) := by
  rw [callsAlong_succ, ← List.append_assoc]
  rfl

end ParserCombinators
