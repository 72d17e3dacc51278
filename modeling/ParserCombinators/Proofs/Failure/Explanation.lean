/-
This file shows that the trace explains every failure that a parse returns. All failures of its
tree have been recorded, each one behind its causes, and its own line is the last one.
-/

import Mathlib.Data.List.OfFn
import ParserCombinators.Proofs.Failure.Shape
import ParserCombinators.Proofs.Label.Scope

namespace ParserCombinators

namespace Failure

mutual

/-- The failures of the tree from left to right, where each one stands behind its causes. -/
def postorder : Failure → List Failure
  | .leaf report => [.leaf report]
  | .single report cause => postorder cause ++ [.single report cause]
  | .many report causes => postorderOfAll causes ++ [.many report causes]

def postorderOfAll : List Failure → List Failure
  | [] => []
  | failure :: failures => postorder failure ++ postorderOfAll failures

end

theorem postorderOfAll_eq_flatMap (failures : List Failure) :
    postorderOfAll failures = failures.flatMap postorder := by
  induction failures with
  | nil => rfl
  | cons failure failures inductionHypothesis =>
      rw [postorderOfAll, inductionHypothesis, List.flatMap_cons]

theorem postorder_eq (failure : Failure) :
    failure.postorder = failure.causes.flatMap postorder ++ [failure] := by
  cases failure with
  | leaf report => rfl
  | single report cause => simp [postorder, causes]
  | many report causes => rw [postorder, postorderOfAll_eq_flatMap, Failure.causes]

end Failure

namespace Event

/-- The failure that an event tells of. -/
def failure (event : Event) : Option Failure :=
  match event.progress with
  | .began => none
  | .succeeded => none
  | .failed reason => some reason

/-- The outcome in the line of a failure is its headline. -/
theorem line_of_failed {medium : Medium} (input : List medium.Element) {event : Event}
    {reason : Failure} (failed : event.progress = .failed reason) :
    ∃ opening, event.line input = opening ++ " -> " ++ reason.headline := by
  rw [line, failed]
  exact ⟨_, rfl⟩

end Event

/-- All failures of the tree are recorded in order, and the last event tells of the whole failure at
its own place. -/
structure Failure.ExplainedBy (reason : Failure) (events : List Event) : Prop where
  inOrder : reason.postorder.Sublist (events.filterMap Event.failure)
  ending : ∃ earlier last, events = earlier ++ [last] ∧ last.progress = .failed reason ∧
    reason.position = some last.index

namespace Failure.ExplainedBy

variable {reason : Failure} {events earlier : List Event}

/-- What was recorded earlier does no harm. -/
theorem after (explained : reason.ExplainedBy events) (earlier : List Event) :
    reason.ExplainedBy (earlier ++ events) where
  inOrder := by
    rw [List.filterMap_append]
    exact explained.inOrder.trans (List.sublist_append_right ..)
  ending := by
    obtain ⟨before, last, rfl, failed, placed⟩ := explained.ending
    exact ⟨earlier ++ before, last, (List.append_assoc ..).symm, failed, placed⟩

/-- A failure is recorded behind its causes. -/
theorem record {index : Nat} (placed : reason.position = some index)
    (causes : (reason.causes.flatMap postorder).Sublist (earlier.filterMap Event.failure))
    (label : String) (operation : Operation) :
    reason.ExplainedBy (earlier ++ [⟨index, label, operation, .failed reason⟩]) where
  inOrder := by
    rw [postorder_eq, List.filterMap_append]
    exact causes.append (List.Sublist.refl [reason])
  ending := ⟨earlier, _, rfl, rfl, placed⟩

end Failure.ExplainedBy

variable {medium : Medium} {Memory A B : Type}

namespace Account

/-- If the parse failed, its log explains why, whatever label was in force. -/
def Explained : Account medium Memory A → Prop
  | .unfinished => True
  | .fault _ => True
  | .failure reason _ log => ∀ label, reason.ExplainedBy (Entry.eventsOfAll label log)
  | .success _ _ _ _ => True

theorem after_after (account : Account medium Memory A) (earlier log : List Entry) :
    (account.after log).after earlier = account.after (earlier ++ log) := by
  cases account with
  | unfinished => rfl
  | fault problem => rfl
  | failure reason memory later =>
      exact congrArg (failure reason memory) (List.append_assoc earlier log later).symm
  | success cursor value memory later =>
      exact congrArg (success cursor value memory) (List.append_assoc earlier log later).symm

variable {account : Account medium Memory A}

theorem Explained.after (explained : account.Explained) (earlier : List Entry) :
    (account.after earlier).Explained := by
  cases account with
  | unfinished => trivial
  | fault problem => trivial
  | failure reason memory log =>
      intro label
      rw [Entry.eventsOfAll_append]
      exact (explained label).after _
  | success cursor value memory log => trivial

theorem Explained.within (explained : account.Explained) (name : String) :
    (account.within name).Explained := by
  cases account with
  | unfinished => trivial
  | fault problem => trivial
  | failure reason memory log =>
      intro label
      rw [Entry.eventsOfAll_scope]
      exact explained name
  | success cursor value memory log => trivial

theorem Explained.remembering (explained : account.Explained) (memory : Memory) :
    (account.remembering memory).Explained := by
  cases account with
  | unfinished => trivial
  | fault problem => trivial
  | failure reason last log => exact explained
  | success cursor value last log => trivial

/-- A failure that is handled in another way has to be explained anew, behind the log so far. -/
theorem Explained.resolve (explained : account.Explained)
    {succeeded : Cursor medium → A → Memory → Account medium Memory B}
    {failed : Failure → Memory → Account medium Memory B}
    (onSuccess : ∀ cursor value memory, (succeeded cursor value memory).Explained)
    (onFailure : ∀ reason memory log,
      (∀ label, reason.ExplainedBy (Entry.eventsOfAll label log)) →
        ((failed reason memory).after log).Explained) :
    (account.resolve succeeded failed).Explained := by
  cases account with
  | unfinished => trivial
  | fault problem => trivial
  | failure reason memory log => exact onFailure reason memory log explained
  | success cursor value memory log => exact (onSuccess cursor value memory).after log

/-- A failure passes through with its explanation. -/
theorem Explained.andThen (explained : account.Explained)
    {next : Cursor medium → A → Memory → Account medium Memory B}
    (onSuccess : ∀ cursor value memory, (next cursor value memory).Explained) :
    (account.andThen next).Explained := by
  apply explained.resolve onSuccess
  intro reason memory log explainedHere label
  show reason.ExplainedBy (Entry.eventsOfAll label (log ++ []))
  rw [List.append_nil]
  exact explainedHere label

/-- A failure that is recorded behind its causes is explained. -/
theorem explained_failRecorded {cursor : Cursor medium} {reason : Failure} {log : List Entry}
    (placed : reason.position = some cursor.index)
    (causes : ∀ label, (reason.causes.flatMap Failure.postorder).Sublist
      ((Entry.eventsOfAll label log).filterMap Event.failure))
    (operation : Operation) (memory : Memory) :
    ((Narrative.failRecorded operation reason cursor memory :
      Account medium Memory A).after log).Explained := by
  intro label
  rw [Entry.eventsOfAll_append]
  exact .record placed (causes label) label operation

theorem explained_failRecorded_newAt {cursor : Cursor medium} {kind : FailureKind}
    {message : String} (operation : Operation) (memory : Memory) :
    (Narrative.failRecorded operation (.newAt kind message cursor.index) cursor memory :
      Account medium Memory A).Explained := by
  show ((Narrative.failRecorded operation (.newAt kind message cursor.index) cursor memory :
    Account medium Memory A).after []).Explained
  apply explained_failRecorded
  · rfl
  · exact fun _ => .slnil

/-- A failure with a single cause is recorded behind this cause. -/
theorem explained_failRecorded_causedBy {cursor : Cursor medium} {cause : Failure}
    {log : List Entry} (explained : ∀ label, cause.ExplainedBy (Entry.eventsOfAll label log))
    (kind : FailureKind) (message : String) (operation : Operation) (memory : Memory) :
    ((Narrative.failRecorded operation ((Failure.newAt kind message cursor.index).causedBy cause)
      cursor memory : Account medium Memory A).after log).Explained := by
  apply explained_failRecorded rfl
  intro label
  show ([cause].flatMap Failure.postorder).Sublist _
  rw [List.flatMap_singleton]
  exact (explained label).inOrder

end Account

theorem Reading.consume_ne_failure (cursor : Cursor medium) (length : Nat)
    (value : List medium.Element → A) (reason : Failure) :
    consume cursor length value ≠ .failure reason := by
  intro failed
  rw [consume] at failed
  cases advanced : cursor.advance length with
  | error problem =>
      rw [advanced] at failed
      cases failed
  | ok next =>
      rw [advanced] at failed
      cases taken : cursor.cut length with
      | error problem =>
          rw [taken] at failed
          cases failed
      | ok elements =>
          rw [taken] at failed
          cases failed

/-- A leaf that fails reports a failure without a cause at the cursor. -/
theorem Leaf.eq_newAt_of_read (wanted : Leaf medium A) {cursor : Cursor medium} {reason : Failure}
    (failed : wanted.read cursor = .failure reason) :
    ∃ kind message, reason = .newAt kind message cursor.index := by
  cases wanted with
  | literal expected =>
      rw [read, readLiteral] at failed
      split at failed
      next => exact absurd failed (Reading.consume_ne_failure _ _ _ _)
      next => cases failed; exact ⟨_, _, rfl⟩
  | pattern wanted =>
      rw [read, readPattern] at failed
      split at failed
      next => exact absurd failed (Reading.consume_ne_failure _ _ _ _)
      next => cases failed; exact ⟨_, _, rfl⟩
  | satisfy description accepts =>
      rw [read, readSatisfy] at failed
      split at failed
      next => exact absurd failed (Reading.consume_ne_failure _ _ _ _)
      next => cases failed; exact ⟨_, _, rfl⟩
  | take count =>
      rw [read, readTake] at failed
      split at failed
      next => cases failed; exact ⟨_, _, rfl⟩
      next => exact absurd failed (Reading.consume_ne_failure _ _ _ _)

/-- Every account of a parse that failed explains why. -/
def Narrative.Explains (narrative : Narrative medium Memory A) : Prop :=
  ∀ cursor memory, (narrative cursor memory).Explained

namespace Narrative.Explains

variable {first : Narrative medium Memory A}

theorem leaf {wanted : Leaf medium A} (logs : wanted.operation ≠ none) :
    (Narrative.leaf wanted : Narrative medium Memory A).Explains := by
  intro cursor memory
  rw [Narrative.leaf]
  cases read : wanted.read cursor with
  | success next value => trivial
  | fault problem => trivial
  | failure reason =>
      obtain ⟨operation, named⟩ := Option.ne_none_iff_exists'.mp logs
      obtain ⟨kind, message, rfl⟩ := wanted.eq_newAt_of_read read
      rw [named]
      exact Account.explained_failRecorded_newAt operation memory

theorem succeed (value : A) :
    (Narrative.succeed value : Narrative medium Memory A).Explains :=
  fun _ _ => trivial

theorem announce (explains : first.Explains) (operation : Operation) :
    (Narrative.announce operation first).Explains :=
  fun cursor memory => (explains cursor memory).after _

theorem chain (explains : first.Explains) {next : A → Narrative medium Memory B}
    (nextExplains : ∀ value, (next value).Explains) : (Narrative.chain first next).Explains :=
  fun cursor memory => (explains cursor memory).andThen fun cursor value memory =>
    nextExplains value cursor memory

theorem map (explains : first.Explains) (convert : A → B) :
    (Narrative.map convert first).Explains :=
  explains.chain fun value => succeed (convert value)

theorem label (explains : first.Explains) (name : String) :
    (Narrative.label name first).Explains := by
  intro cursor memory
  apply Account.Explained.within
  apply (explains.announce (.label name) cursor memory).resolve
  · exact fun _ _ _ => trivial
  · intro cause later log explained
    exact Account.explained_failRecorded_causedBy explained _ _ _ later

theorem parseAs {parser : Narrative medium Memory String} (explains : parser.Explains)
    (reader : Reader A) : (Narrative.parseAs reader parser).Explains := by
  intro cursor memory
  apply (explains cursor memory).andThen
  intro next text later
  cases reader.read text with
  | some value => trivial
  | none => exact Account.explained_failRecorded_newAt _ later

theorem fresh (explains : first.Explains) (memory : Memory) :
    (Narrative.fresh memory first).Explains :=
  fun cursor _ => (explains cursor memory).remembering _

theorem tuple {types : List Type}
    {parts : (part : Fin types.length) → Narrative medium Memory (types.get part)}
    (explains : ∀ part, (parts part).Explains) : (Narrative.tuple parts).Explains := by
  induction types with
  | nil => exact succeed ()
  | cons A types inductionHypothesis =>
      have others := inductionHypothesis fun part => explains part.succ
      exact (explains ⟨0, Nat.succ_pos _⟩).chain fun first => others.map _

theorem row {narratives : List (Narrative medium Memory A)}
    (explain : ∀ narrative ∈ narratives, narrative.Explains) :
    (Narrative.row narratives).Explains := by
  induction narratives with
  | nil => exact succeed []
  | cons first others inductionHypothesis =>
      obtain ⟨firstExplains, othersExplain⟩ := List.forall_mem_cons.mp explain
      exact firstExplains.chain fun value => (inductionHypothesis othersExplain).map _

/-- The log so far holds the failures of all alternatives so far in order. -/
theorem attempt {narratives : List (Narrative medium Memory A)}
    (explain : ∀ narrative ∈ narratives, narrative.Explains) {failures : List Failure}
    {log : List Entry}
    (soFar : ∀ label, (failures.flatMap Failure.postorder).Sublist
      ((Entry.eventsOfAll label log).filterMap Event.failure))
    (cursor : Cursor medium) (memory : Memory) :
    ((Narrative.attempt failures narratives cursor memory).after log).Explained := by
  induction narratives generalizing failures log memory with
  | nil =>
      let report : Report := ⟨.choice, "no alternative matched at index " ++ toString cursor.index,
        some cursor.index⟩
      have sameReport := Failure.report_causedByAll report failures
      have sameCauses := Failure.causes_causedByAll report failures
      apply Account.explained_failRecorded (congrArg Report.position sameReport)
      intro label
      show ((Failure.causedByAll (.leaf report) failures).causes.flatMap _).Sublist _
      rw [sameCauses]
      exact soFar label
  | cons first others inductionHypothesis =>
      obtain ⟨firstExplains, othersExplain⟩ := List.forall_mem_cons.mp explain
      have explained := firstExplains cursor memory
      show (((first cursor memory).orElse fun reason memory =>
        Narrative.attempt (failures ++ [reason]) others cursor memory).after log).Explained
      generalize first cursor memory = account at explained
      cases account with
      | unfinished => trivial
      | fault problem => trivial
      | success next value later written => trivial
      | failure reason later written =>
          show (((Narrative.attempt (failures ++ [reason]) others cursor later).after written).after
            log).Explained
          rw [Account.after_after]
          have recorded : ∀ label, reason.ExplainedBy (Entry.eventsOfAll label written) := explained
          apply inductionHypothesis othersExplain
          intro label
          rw [List.flatMap_append, List.flatMap_singleton, Entry.eventsOfAll_append,
            List.filterMap_append]
          exact (soFar label).append (recorded label).inOrder

theorem choice {narratives : List (Narrative medium Memory A)}
    (explain : ∀ narrative ∈ narratives, narrative.Explains) :
    (Narrative.choice narratives).Explains := by
  intro cursor memory
  have nothing (label : String) : (([] : List Failure).flatMap Failure.postorder).Sublist
      ((Entry.eventsOfAll label [.line cursor.index (.choice narratives.length) .began]).filterMap
        Event.failure) := List.nil_sublist _
  exact attempt explain nothing cursor memory

/-- The failure that makes a parser absent is dropped. -/
theorem optional (explains : first.Explains) : (Narrative.optional first).Explains := by
  intro cursor memory
  apply (explains.map some cursor memory).resolve
  · exact fun _ _ _ => trivial
  · exact fun _ _ _ _ => trivial

/-- The failure that ends a repetition is dropped. -/
theorem repeatFrom (explains : first.Explains) (fuel : Nat) (values : List A) :
    (Narrative.repeatFrom first fuel values).Explains := by
  induction fuel generalizing values with
  | zero => exact fun _ _ => trivial
  | succ fuel inductionHypothesis =>
      intro cursor memory
      apply (explains cursor memory).resolve
      · intro next value later
        exact inductionHypothesis (value :: values) next later
      · exact fun _ _ _ _ => trivial

theorem recordCount {parser : Narrative medium Memory (List A)} (explains : parser.Explains)
    (operation : Nat → Operation) : (Narrative.recordCount operation parser).Explains :=
  explains.chain fun _ _ _ => trivial

theorem many (explains : first.Explains) (fuel : Nat) : (Narrative.many fuel first).Explains :=
  ((explains.repeatFrom fuel []).recordCount _).announce _

theorem manyOne (explains : first.Explains) (fuel : Nat) :
    (Narrative.manyOne fuel first).Explains := by
  apply announce
  intro cursor memory
  apply (explains cursor memory).resolve
  · intro next value later
    exact (explains.repeatFrom fuel [value]).recordCount _ next later
  · intro cause later log explained
    exact Account.explained_failRecorded_causedBy explained _ _ _ later

theorem sepBy {separator : Narrative medium Memory B} (separatorExplains : separator.Explains)
    (explains : first.Explains) (fuel : Nat) : (Narrative.sepBy fuel separator first).Explains := by
  apply announce
  intro cursor memory
  apply (explains cursor memory).resolve
  · intro next value later
    have round := separatorExplains.chain fun _ => explains
    exact (round.repeatFrom fuel [value]).recordCount _ next later
  · exact fun _ _ _ _ => trivial

end Narrative.Explains

variable {signature : Signature}

/-- A leaf has an operation to record its failures under. Any other part records the failures that
it builds. -/
def Parser.PartLogsFailures : Parser signature A → Prop
  | .leaf wanted => wanted.operation ≠ none
  | part => ¬ part.ReportsAnything

/-- Every failure that the parser reports has been recorded by the part that built it. -/
def Parser.LogsFailures (parser : Parser signature A) : Prop :=
  parser.Everywhere fun _ part => part.PartLogsFailures

def Grammar.LogsFailures (grammar : Grammar signature) : Prop :=
  ∀ rule, (grammar rule).LogsFailures

/-- Where the rules explain their failures, every parser does. -/
theorem Parser.narrative_explains
    {narratives : (rule : signature.Rule) →
      Narrative signature.medium signature.Memory (signature.result rule)}
    (rulesExplain : ∀ rule, (narratives rule).Explains) (fuel : Nat) {parser : Parser signature A}
    (logs : parser.LogsFailures) : (parser.narrative narratives fuel).Explains := by
  induction parser with
  | leaf wanted => exact .leaf logs
  | function run => exact absurd trivial logs
  | succeed value => exact .succeed value
  | fail reason => exact absurd trivial logs
  | map convert parser explains => exact (explains logs.2).map convert
  | chain parser next explains nextExplains =>
      exact (explains logs.2.1).chain fun value => nextExplains value (logs.2.2 value)
  | ap applied argument explains argumentExplains =>
      exact (explains logs.2.1).chain fun convert => (argumentExplains logs.2.2).map convert
  | mapError convert parser explains => exact absurd trivial logs.1
  | label name parser explains => exact (explains logs.2).label name
  | parseAs reader parser explains => exact (explains logs.2).parseAs reader
  | sequence parts explain =>
      exact (Narrative.Explains.tuple fun part => explain part (logs.2 part)).announce _
  | sequenceList parts explain =>
      refine (Narrative.Explains.row (List.forall_mem_ofFn_iff.mpr ?_)).announce _
      exact fun part => explain part (logs.2 part)
  | choice alternatives explain =>
      apply Narrative.Explains.choice
      exact List.forall_mem_ofFn_iff.mpr fun index => explain index (logs.2 index)
  | many parser explains => exact (explains logs.2).many fuel
  | manyOne parser explains => exact (explains logs.2).manyOne fuel
  | sepBy separator item separatorExplains explains =>
      exact (separatorExplains logs.2.1).sepBy (explains logs.2.2) fuel
  | optional parser explains => exact (explains logs.2).optional
  | rule name => exact (rulesExplain name).announce .lazy
  | fresh memory parser explains => exact (explains logs.2).fresh memory

namespace Grammar

variable {grammar : Grammar signature}

theorem told_explains (logs : grammar.LogsFailures) (fuel : Nat) (rule : signature.Rule) :
    (grammar.told fuel rule).Explains := by
  induction fuel generalizing rule with
  | zero => exact fun _ _ => trivial
  | succ fuel inductionHypothesis =>
      exact Parser.narrative_explains inductionHypothesis fuel (logs rule)

theorem account_explains (logs : grammar.LogsFailures) {parser : Parser signature A}
    (parserLogs : parser.LogsFailures) (fuel : Nat) : (grammar.account fuel parser).Explains :=
  Parser.narrative_explains (told_explains logs fuel) fuel parserLogs

/-- The trace explains every failure that a parse returns. The headlines of the whole tree, each one
behind those of its causes, are found in this order among the outcomes of the failures that the
parse recorded, and the last line of the trace is that of the failure itself. -/
theorem failure_explained (logs : grammar.LogsFailures) {parser : Parser signature A}
    (parserLogs : parser.LogsFailures) {fuel : Nat} {cursor : Cursor signature.medium}
    {session final : Session signature.Memory} {reason : Failure}
    (failed : grammar.outcome fuel parser cursor session = .failure reason final) :
    ∃ events, final.history = session.history ++ events ∧
      (reason.postorder.map Failure.headline).Sublist
        ((events.filterMap Event.failure).map Failure.headline) ∧
      ∃ earlier last, events = earlier ++ [last] ∧ last.progress = .failed reason ∧
        reason.position = some last.index ∧
        ∀ input : List signature.medium.Element, ∃ opening,
          final.trace input = session.trace input ++ earlier.map (Event.line input) ++
            [opening ++ " -> " ++ reason.headline] := by
  have told := grammar.outcome_toldBy fuel parser cursor session
  obtain ⟨log, same, records⟩ := Account.records_of_failure (told.symm.trans failed)
  have explained := account_explains logs parserLogs fuel cursor session.memory
  rw [same] at explained
  obtain ⟨inOrder, earlier, last, split, failedLast, placed⟩ := explained session.label
  refine ⟨_, records.history, inOrder.map _, earlier, last, split, failedLast, placed, ?_⟩
  intro input
  obtain ⟨opening, line⟩ := Event.line_of_failed input failedLast
  refine ⟨opening, ?_⟩
  rw [records.trace, split, List.map_append, List.map_singleton, line, List.append_assoc]

end Grammar

namespace Calculator

theorem grammar_logsFailures {N : Type} (arithmetic : Arithmetic N) :
    (grammar arithmetic).LogsFailures := by
  intro rule
  cases rule
  simp [grammar, expression, term, factor, level, operator, number, token, literal, whiteSpace,
    Parser.choiceOf, Parser.between, Parser.pair, Parser.LogsFailures, Parser.Everywhere,
    Parser.PartLogsFailures, Parser.ReportsAnything, Leaf.operation, Fin.forall_fin_succ]

/-- The trace of a parse at an open parenthesis ends with the failure that the parse returns. -/
theorem unclosed_failure_explained :
    (grammar floatArithmetic).LogsFailures ∧ (expression floatArithmetic).LogsFailures ∧
      ∃ reason final,
        (grammar floatArithmetic).outcome 3 (expression floatArithmetic) (Cursor.ofText "(")
            (.initial ()) = .failure reason final ∧
          (reason.postorder.map Failure.headline).Sublist
            ((final.history.filterMap Event.failure).map Failure.headline) ∧
          ∃ earlier last, final.history = earlier ++ [last] ∧ last.progress = .failed reason := by
  have logs := grammar_logsFailures floatArithmetic
  have failure : ∃ reason final,
      (grammar floatArithmetic).outcome 3 (expression floatArithmetic) (Cursor.ofText "(")
        (.initial ()) = .failure reason final := ⟨_, _, by rfl⟩
  obtain ⟨reason, final, failed⟩ := failure
  obtain ⟨events, history, inOrder, earlier, last, split, failedLast, _⟩ :=
    Grammar.failure_explained logs (logs .expression) failed
  have recorded : final.history = events := history
  rw [← recorded] at inOrder
  exact ⟨logs, logs .expression, reason, final, failed, inOrder, earlier, last,
    recorded.trans split, failedLast⟩

end Calculator

end ParserCombinators
