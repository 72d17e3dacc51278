/-
This file compares two parses. They are alike when they end in the same way, with like cursors and
the same value or with like failures. Combinators keep parsers alike.
-/

import Mathlib.Data.List.Forall2
import ParserCombinators.Behaviour.Repetition

namespace ParserCombinators

variable {medium : Medium} {Memory A B : Type}

/-- A likeness says which cursors and which failures of two parses are alike. -/
structure Likeness (medium : Medium) where
  cursors : Cursor medium → Cursor medium → Prop
  failures : Failure → Failure → Prop

/-- The two parses change their places. -/
def Likeness.flip (likeness : Likeness medium) : Likeness medium :=
  ⟨fun cursor cursor' => likeness.cursors cursor' cursor,
    fun reason reason' => likeness.failures reason' reason⟩

/-- Like readings end in the same way. -/
inductive Reading.Alike (likeness : Likeness medium) : Reading medium A → Reading medium A → Prop
  | success {next next' : Cursor medium} (cursors : likeness.cursors next next') (value : A) :
      Alike likeness (.success next value) (.success next' value)
  | failure {reason reason' : Failure} (failures : likeness.failures reason reason') :
      Alike likeness (.failure reason) (.failure reason')
  | fault (problem : Fault) : Alike likeness (.fault problem) (.fault problem)

/-- Like outcomes end in the same way and remember the same. Labels and events may differ. -/
inductive Outcome.Alike (likeness : Likeness medium) :
    Outcome medium Memory A → Outcome medium Memory A → Prop
  | unfinished : Alike likeness .unfinished .unfinished
  | fault (problem : Fault) : Alike likeness (.fault problem) (.fault problem)
  | failure {reason reason' : Failure} {session session' : Session Memory}
      (failures : likeness.failures reason reason') (memories : session.memory = session'.memory) :
      Alike likeness (.failure reason session) (.failure reason' session')
  | success {next next' : Cursor medium} {session session' : Session Memory}
      (cursors : likeness.cursors next next') (value : A)
      (memories : session.memory = session'.memory) :
      Alike likeness (.success next value session) (.success next' value session')

/-- Like behaviours have like outcomes when they begin alike. -/
def Behaviour.Alike (likeness : Likeness medium) (first second : Behaviour medium Memory A) :
    Prop :=
  ∀ cursor cursor', likeness.cursors cursor cursor' → ∀ session session' : Session Memory,
    session.memory = session'.memory →
      (first cursor session).Alike likeness (second cursor' session')

variable {likeness : Likeness medium}

namespace Outcome.Alike

variable {first second : Outcome medium Memory A}

theorem flip (alike : first.Alike likeness second) : second.Alike likeness.flip first := by
  cases alike with
  | unfinished => exact .unfinished
  | fault problem => exact .fault problem
  | @failure reason reason' session session' failures memories =>
      have flipped : likeness.flip.failures reason' reason := failures
      exact .failure flipped memories.symm
  | @success next next' session session' cursors value memories =>
      have flipped : likeness.flip.cursors next' next := cursors
      exact .success flipped value memories.symm

/-- Like outcomes go on alike. -/
theorem resolve (alike : first.Alike likeness second)
    {succeeded succeeded' : Cursor medium → A → Session Memory → Outcome medium Memory B}
    {failed failed' : Failure → Session Memory → Outcome medium Memory B}
    (onSuccess : ∀ cursor cursor' value session session', likeness.cursors cursor cursor' →
      session.memory = session'.memory →
        (succeeded cursor value session).Alike likeness (succeeded' cursor' value session'))
    (onFailure : ∀ reason reason' session session', likeness.failures reason reason' →
      session.memory = session'.memory →
        (failed reason session).Alike likeness (failed' reason' session')) :
    (first.resolve succeeded failed).Alike likeness (second.resolve succeeded' failed') := by
  cases alike with
  | unfinished => exact .unfinished
  | fault problem => exact .fault problem
  | failure failures memories => exact onFailure _ _ _ _ failures memories
  | success cursors value memories => exact onSuccess _ _ value _ _ cursors memories

theorem andThen (alike : first.Alike likeness second)
    {next next' : Cursor medium → A → Session Memory → Outcome medium Memory B}
    (onSuccess : ∀ cursor cursor' value session session', likeness.cursors cursor cursor' →
      session.memory = session'.memory →
        (next cursor value session).Alike likeness (next' cursor' value session')) :
    (first.andThen next).Alike likeness (second.andThen next') :=
  alike.resolve onSuccess fun _ _ _ _ failures memories => .failure failures memories

theorem orElse (alike : first.Alike likeness second)
    {handle handle' : Failure → Session Memory → Outcome medium Memory A}
    (onFailure : ∀ reason reason' session session', likeness.failures reason reason' →
      session.memory = session'.memory →
        (handle reason session).Alike likeness (handle' reason' session')) :
    (first.orElse handle).Alike likeness (second.orElse handle') :=
  alike.resolve (fun _ _ value _ _ cursors memories => .success cursors value memories) onFailure

/-- Another failure may be reported on one side only. -/
theorem orElse_left (alike : first.Alike likeness second)
    {handle : Failure → Session Memory → Outcome medium Memory A}
    (onFailure : ∀ reason reason' session session', likeness.failures reason reason' →
      session.memory = session'.memory →
        (handle reason session).Alike likeness (.failure reason' session')) :
    (first.orElse handle).Alike likeness second := by
  have same : second.orElse .failure = second := by cases second <;> rfl
  rw [← same]
  exact alike.orElse onFailure

/-- Labels and events may change on one side only. -/
theorem mapSession_left (alike : first.Alike likeness second)
    {change : Session Memory → Session Memory}
    (keeps : ∀ session, (change session).memory = session.memory) :
    (first.mapSession change).Alike likeness second := by
  have same : second.resolve .success .failure = second := by cases second <;> rfl
  rw [← same]
  apply alike.resolve
  · intro cursor cursor' value session session' cursors memories
    exact .success cursors value ((keeps session).trans memories)
  · intro reason reason' session session' failures memories
    exact .failure failures ((keeps session).trans memories)

theorem mapSession (alike : first.Alike likeness second)
    {change change' : Session Memory → Session Memory}
    (keeps : ∀ session session', session.memory = session'.memory →
      (change session).memory = (change' session').memory) :
    (first.mapSession change).Alike likeness (second.mapSession change') := by
  apply alike.resolve
  · intro cursor cursor' value session session' cursors memories
    exact .success cursors value (keeps session session' memories)
  · intro reason reason' session session' failures memories
    exact .failure failures (keeps session session' memories)

end Outcome.Alike

theorem Session.memory_recordSome (session : Session Memory) (index : Nat)
    (operation : Option Operation) (progress : Progress) :
    (session.recordSome index operation progress).memory = session.memory := by
  cases operation with
  | none => rfl
  | some operation => rfl

namespace Behaviour.Alike

variable {first second : Behaviour medium Memory A}

theorem leaf {wanted wanted' : Leaf medium A}
    (alike : ∀ cursor cursor', likeness.cursors cursor cursor' →
      (wanted.read cursor).Alike likeness (wanted'.read cursor')) :
    (Behaviour.leaf wanted : Behaviour medium Memory A).Alike likeness
      (Behaviour.leaf wanted') := by
  intro cursor cursor' cursors session session' memories
  have readings := alike cursor cursor' cursors
  rw [Behaviour.leaf, Behaviour.leaf]
  generalize wanted.read cursor = reading at readings
  generalize wanted'.read cursor' = reading' at readings
  cases readings with
  | success nextCursors value =>
      refine .success nextCursors value ?_
      rw [Session.memory_recordSome, Session.memory_recordSome, memories]
  | failure failures =>
      refine .failure failures ?_
      rw [Session.memory_recordSome, Session.memory_recordSome, memories]
  | fault problem => exact .fault problem

/-- Plain functions see what is remembered, but neither labels nor events. -/
theorem function {run run' : Cursor medium → Memory → Reading medium A × Memory}
    (alike : ∀ cursor cursor', likeness.cursors cursor cursor' → ∀ memory,
      (run cursor memory).1.Alike likeness (run' cursor' memory).1 ∧
        (run cursor memory).2 = (run' cursor' memory).2) :
    (Behaviour.function run).Alike likeness (Behaviour.function run') := by
  intro cursor cursor' cursors session session' memories
  obtain ⟨readings, remembered⟩ := alike cursor cursor' cursors session.memory
  rw [Behaviour.function, Behaviour.function, ← memories]
  generalize run cursor session.memory = ran at readings remembered
  generalize run' cursor' session.memory = ran' at readings remembered
  obtain ⟨reading, memory⟩ := ran
  obtain ⟨reading', memory'⟩ := ran'
  cases readings with
  | success nextCursors value => exact .success nextCursors value remembered
  | failure failures => exact .failure failures remembered
  | fault problem => exact .fault problem

theorem succeed (value : A) :
    (Behaviour.succeed value : Behaviour medium Memory A).Alike likeness
      (Behaviour.succeed value) := by
  intro cursor cursor' cursors session session' memories
  exact .success cursors value memories

theorem succeedRecorded (operation operation' : Operation) (value : A) :
    (Behaviour.succeedRecorded operation value : Behaviour medium Memory A).Alike likeness
      (Behaviour.succeedRecorded operation' value) := by
  intro cursor cursor' cursors session session' memories
  exact .success cursors value memories

theorem fail {reason reason' : Failure} (failures : likeness.failures reason reason') :
    (Behaviour.fail reason : Behaviour medium Memory A).Alike likeness
      (Behaviour.fail reason') := by
  intro cursor cursor' _ session session' memories
  exact .failure failures memories

theorem announce (alike : first.Alike likeness second) (operation operation' : Operation) :
    (Behaviour.announce operation first).Alike likeness (Behaviour.announce operation' second) := by
  intro cursor cursor' cursors session session' memories
  exact alike cursor cursor' cursors _ _ memories

theorem chain (alike : first.Alike likeness second) {next next' : A → Behaviour medium Memory B}
    (nextAlike : ∀ value, (next value).Alike likeness (next' value)) :
    (Behaviour.chain first next).Alike likeness (Behaviour.chain second next') := by
  intro cursor cursor' cursors session session' memories
  apply (alike cursor cursor' cursors session session' memories).andThen
  intro middle middle' value later later' middles laterMemories
  exact nextAlike value middle middle' middles later later' laterMemories

theorem map (alike : first.Alike likeness second) (convert : A → B) :
    (Behaviour.map convert first).Alike likeness (Behaviour.map convert second) :=
  alike.chain fun value => succeed (convert value)

theorem ap {applied applied' : Behaviour medium Memory (A → B)}
    (alike : applied.Alike likeness applied') (argumentAlike : first.Alike likeness second) :
    (Behaviour.ap applied first).Alike likeness (Behaviour.ap applied' second) :=
  alike.chain fun convert => argumentAlike.map convert

theorem mapError (alike : first.Alike likeness second) {convert convert' : Failure → Failure}
    (converted : ∀ reason reason', likeness.failures reason reason' →
      likeness.failures (convert reason) (convert' reason')) :
    (Behaviour.mapError convert first).Alike likeness (Behaviour.mapError convert' second) := by
  intro cursor cursor' cursors session session' memories
  apply (alike cursor cursor' cursors session session' memories).orElse
  intro reason reason' later later' failures laterMemories
  exact .failure (converted reason reason' failures) laterMemories

theorem mapError_left (alike : first.Alike likeness second) {convert : Failure → Failure}
    (converted : ∀ reason reason', likeness.failures reason reason' →
      likeness.failures (convert reason) reason') :
    (Behaviour.mapError convert first).Alike likeness second := by
  intro cursor cursor' cursors session session' memories
  apply (alike cursor cursor' cursors session session' memories).orElse_left
  intro reason reason' later later' failures laterMemories
  exact .failure (converted reason reason' failures) laterMemories

theorem label (alike : first.Alike likeness second) {name name' : String}
    (named : ∀ cursor cursor' cause cause', likeness.cursors cursor cursor' →
      likeness.failures cause cause' →
        likeness.failures (ruleFailure name cursor.index cause)
          (ruleFailure name' cursor'.index cause')) :
    (Behaviour.label name first).Alike likeness (Behaviour.label name' second) := by
  intro cursor cursor' cursors session session' memories
  refine Outcome.Alike.mapSession ?_ fun _ _ same => same
  have began := alike.announce (.label name) (.label name') cursor cursor' cursors
    (session.labelled name) (session'.labelled name') memories
  apply began.orElse
  intro cause cause' later later' causes laterMemories
  exact .failure (named cursor cursor' cause cause' cursors causes) laterMemories

theorem label_left (alike : first.Alike likeness second) {name : String}
    (named : ∀ cursor cursor' cause cause', likeness.cursors cursor cursor' →
      likeness.failures cause cause' →
        likeness.failures (ruleFailure name cursor.index cause) cause') :
    (Behaviour.label name first).Alike likeness second := by
  intro cursor cursor' cursors session session' memories
  refine Outcome.Alike.mapSession_left ?_ fun _ => rfl
  have began : (Behaviour.announce (.label name) first cursor (session.labelled name)).Alike
      likeness (second cursor' session') := alike cursor cursor' cursors _ session' memories
  apply began.orElse_left
  intro cause cause' later later' causes laterMemories
  exact .failure (named cursor cursor' cause cause' cursors causes) laterMemories

theorem parseAs {parser parser' : Behaviour medium Memory String} {reader : Reader A}
    (alike : parser.Alike likeness parser')
    (unreadable : ∀ (cursor cursor' : Cursor medium) text, likeness.cursors cursor cursor' →
      likeness.failures (readerFailure reader.name text cursor.index)
        (readerFailure reader.name text cursor'.index)) :
    (Behaviour.parseAs reader parser).Alike likeness (Behaviour.parseAs reader parser') := by
  intro cursor cursor' cursors session session' memories
  apply (alike cursor cursor' cursors session session' memories).andThen
  intro next next' text later later' nexts laterMemories
  cases reader.read text with
  | some value => exact .success nexts value laterMemories
  | none => exact .failure (unreadable cursor cursor' text cursors) laterMemories

theorem fresh (alike : first.Alike likeness second) (memory : Memory) :
    (Behaviour.fresh memory first).Alike likeness (Behaviour.fresh memory second) := by
  intro cursor cursor' cursors session session' memories
  have inner := alike cursor cursor' cursors (session.remembering memory)
    (session'.remembering memory) rfl
  exact inner.mapSession fun _ _ _ => memories

theorem tuple {types : List Type}
    {parts parts' : (part : Fin types.length) → Behaviour medium Memory (types.get part)}
    (alike : ∀ part, (parts part).Alike likeness (parts' part)) :
    (Behaviour.tuple parts).Alike likeness (Behaviour.tuple parts') := by
  induction types with
  | nil => exact succeed ()
  | cons A types inductionHypothesis =>
      have others := inductionHypothesis fun part => alike part.succ
      exact (alike ⟨0, Nat.succ_pos _⟩).chain fun first => others.map fun others => (first, others)

theorem row {count : Nat} {parts parts' : Fin count → Behaviour medium Memory A}
    (alike : ∀ part, (parts part).Alike likeness (parts' part)) :
    (Behaviour.row (List.ofFn parts)).Alike likeness (Behaviour.row (List.ofFn parts')) := by
  induction count with
  | zero =>
      rw [List.ofFn_zero, List.ofFn_zero]
      exact succeed []
  | succ count inductionHypothesis =>
      have others := inductionHypothesis fun part => alike part.succ
      rw [List.ofFn_succ, List.ofFn_succ, Behaviour.row_cons, Behaviour.row_cons]
      exact (alike 0).chain fun first => others.map (first :: ·)

/-- The failures so far are alike one by one. -/
theorem attempt {count : Nat} {alternatives alternatives' : Fin count → Behaviour medium Memory A}
    (alike : ∀ index, (alternatives index).Alike likeness (alternatives' index))
    (exhausted : ∀ cursor cursor' failures failures', likeness.cursors cursor cursor' →
      List.Forall₂ likeness.failures failures failures' →
        likeness.failures (choiceFailure cursor.index failures)
          (choiceFailure cursor'.index failures'))
    {failures failures' : List Failure}
    (soFar : List.Forall₂ likeness.failures failures failures') :
    (Behaviour.attempt failures (List.ofFn alternatives)).Alike likeness
      (Behaviour.attempt failures' (List.ofFn alternatives')) := by
  induction count generalizing failures failures' with
  | zero =>
      rw [List.ofFn_zero, List.ofFn_zero]
      intro cursor cursor' cursors session session' memories
      exact .failure (exhausted cursor cursor' failures failures' cursors soFar) memories
  | succ count inductionHypothesis =>
      rw [List.ofFn_succ, List.ofFn_succ]
      intro cursor cursor' cursors session session' memories
      apply (alike 0 cursor cursor' cursors session session' memories).orElse
      intro reason reason' later later' reasons laterMemories
      have longer := List.rel_append soFar (.cons reasons .nil)
      exact inductionHypothesis (fun index => alike index.succ) longer cursor cursor' cursors later
        later' laterMemories

theorem optional (alike : first.Alike likeness second) :
    (Behaviour.optional first).Alike likeness (Behaviour.optional second) := by
  intro cursor cursor' cursors session session' memories
  apply (alike.map some cursor cursor' cursors session session' memories).orElse
  intro _ _ later later' _ laterMemories
  exact .success cursors none laterMemories

/-- Both repetitions make the same number of rounds. -/
theorem repeatFrom (alike : first.Alike likeness second) (fuel : Nat) (values : List A) :
    (Behaviour.repeatFrom first fuel values).Alike likeness
      (Behaviour.repeatFrom second fuel values) := by
  induction fuel generalizing values with
  | zero => exact fun _ _ _ _ _ _ => .unfinished
  | succ fuel inductionHypothesis =>
      intro cursor cursor' cursors session session' memories
      apply (alike cursor cursor' cursors session session' memories).resolve
      · intro next next' value later later' nexts laterMemories
        exact inductionHypothesis (value :: values) next next' nexts later later' laterMemories
      · intro _ _ later later' _ laterMemories
        exact .success cursors values.reverse laterMemories

theorem recordCount {parser parser' : Behaviour medium Memory (List A)}
    (alike : parser.Alike likeness parser') (operation : Nat → Operation) :
    (Behaviour.recordCount operation parser).Alike likeness
      (Behaviour.recordCount operation parser') :=
  alike.chain fun values => succeedRecorded _ _ values

theorem many (alike : first.Alike likeness second) (fuel : Nat) :
    (Behaviour.many fuel first).Alike likeness (Behaviour.many fuel second) :=
  ((alike.repeatFrom fuel []).recordCount _).announce _ _

theorem manyOne (alike : first.Alike likeness second) (fuel : Nat)
    (absent : ∀ cursor cursor' cause cause', likeness.cursors cursor cursor' →
      likeness.failures cause cause' →
        likeness.failures (manyOneFailure cursor.index cause)
          (manyOneFailure cursor'.index cause')) :
    (Behaviour.manyOne fuel first).Alike likeness (Behaviour.manyOne fuel second) := by
  apply announce
  intro cursor cursor' cursors session session' memories
  apply (alike cursor cursor' cursors session session' memories).resolve
  · intro next next' value later later' nexts laterMemories
    have repeated := (alike.repeatFrom fuel [value]).recordCount .manyOneEnd
    exact repeated next next' nexts later later' laterMemories
  · intro cause cause' later later' causes laterMemories
    exact .failure (absent cursor cursor' cause cause' cursors causes) laterMemories

theorem sepBy {separator separator' : Behaviour medium Memory B}
    (alike : separator.Alike likeness separator') (itemAlike : first.Alike likeness second)
    (fuel : Nat) :
    (Behaviour.sepBy fuel separator first).Alike likeness
      (Behaviour.sepBy fuel separator' second) := by
  rw [Behaviour.sepBy_eq, Behaviour.sepBy_eq]
  apply announce
  intro cursor cursor' cursors session session' memories
  apply (itemAlike cursor cursor' cursors session session' memories).resolve
  · intro next next' value later later' nexts laterMemories
    have step := alike.chain fun _ => itemAlike
    have repeated := (step.repeatFrom fuel [value]).recordCount .sepByEnd
    exact repeated next next' nexts later later' laterMemories
  · intro _ _ later later' _ laterMemories
    exact .success cursors [] laterMemories

end Behaviour.Alike

end ParserCombinators
