/-
This file shows that labels are scopes. A parse leaves the label that was in force before it, and
each event it records has the label of the innermost parse with a label that was in progress.
-/

import ParserCombinators.Grammar.Tokens
import ParserCombinators.Proofs.Label.Account
import ParserCombinators.Proofs.Likeness
import ParserCombinators.Proofs.Text.Column

namespace ParserCombinators

open Text

variable {medium : Medium} {Memory A B : Type}

/-- The session goes on with this memory and records the log. Its label stays in force. -/
def Session.told (session : Session Memory) (memory : Memory) (log : List Entry) :
    Session Memory :=
  { session with
    memory := memory
    events := (Entry.eventsOfAll session.label log).reverse ++ session.events }

namespace Session

variable (session : Session Memory) (memory memory' : Memory)

theorem told_told (log log' : List Entry) :
    (session.told memory log).told memory' log' = session.told memory' (log ++ log') := by
  simp only [told, Entry.eventsOfAll_append, List.reverse_append, List.append_assoc]

/-- A scope is told under its own name. -/
theorem labelled_told (name : String) (log : List Entry) :
    ((session.labelled name).told memory log).labelled session.label =
      session.told memory [.scope name log] := by
  simp only [told, labelled, Entry.eventsOfAll_scope]

theorem recordSome_eq_told (index : Nat) (operation : Option Operation) (progress : Progress) :
    session.recordSome index operation progress =
      session.told session.memory (Narrative.logOf index operation progress) := by
  cases operation <;> rfl

/-- What is told stands behind the history so far. -/
theorem history_told (log : List Entry) :
    (session.told memory log).history = session.history ++ Entry.eventsOfAll session.label log := by
  rw [told, history, List.reverse_append, List.reverse_reverse]
  rfl

end Session

namespace Account

/-- The outcome that the account tells in a session. -/
def outcome (session : Session Memory) : Account medium Memory A → Outcome medium Memory A
  | .unfinished => .unfinished
  | .fault problem => .fault problem
  | .failure reason memory log => .failure reason (session.told memory log)
  | .success cursor value memory log => .success cursor value (session.told memory log)

variable (account : Account medium Memory A) (session : Session Memory)

/-- What was recorded earlier belongs to the session from which the rest goes on. -/
theorem outcome_after (memory : Memory) (log : List Entry) :
    (account.after log).outcome session = account.outcome (session.told memory log) := by
  cases account with
  | unfinished => rfl
  | fault problem => rfl
  | failure reason last later =>
      exact congrArg (Outcome.failure reason) (session.told_told memory last log later).symm
  | success cursor value last later =>
      exact congrArg (Outcome.success cursor value) (session.told_told memory last log later).symm

/-- A scope puts its own label in force and then the outer one again. -/
theorem outcome_within (name : String) :
    (account.within name).outcome session = (account.outcome (session.labelled name)).mapSession
      fun final => final.labelled session.label := by
  cases account with
  | unfinished => rfl
  | fault problem => rfl
  | failure reason memory log =>
      exact congrArg (Outcome.failure reason) (session.labelled_told memory name log).symm
  | success cursor value memory log =>
      exact congrArg (Outcome.success cursor value) (session.labelled_told memory name log).symm

theorem outcome_remembering (inner outer : Memory) :
    (account.remembering outer).outcome session =
      (account.outcome (session.remembering inner)).mapSession fun final =>
        final.remembering outer := by
  cases account <;> rfl

/-- Both ways of going on begin in the session that the first part has left. -/
theorem outcome_resolve {succeeded : Cursor medium → A → Memory → Account medium Memory B}
    {failed : Failure → Memory → Account medium Memory B}
    {succeeded' : Cursor medium → A → Session Memory → Outcome medium Memory B}
    {failed' : Failure → Session Memory → Outcome medium Memory B}
    (onSuccess : ∀ cursor value session, succeeded' cursor value session =
      (succeeded cursor value session.memory).outcome session)
    (onFailure : ∀ reason session, failed' reason session =
      (failed reason session.memory).outcome session) :
    (account.outcome session).resolve succeeded' failed' =
      (account.resolve succeeded failed).outcome session := by
  cases account with
  | unfinished => rfl
  | fault problem => rfl
  | failure reason memory log =>
      rw [resolve, outcome_after]
      exact onFailure reason _
  | success cursor value memory log =>
      rw [resolve, outcome_after]
      exact onSuccess cursor value _

end Account

/-- The narrative tells what the behaviour does, whatever label is in force. -/
def Behaviour.ToldBy (behaviour : Behaviour medium Memory A)
    (narrative : Narrative medium Memory A) : Prop :=
  ∀ cursor session, behaviour cursor session = (narrative cursor session.memory).outcome session

namespace Behaviour.ToldBy

variable {first : Behaviour medium Memory A} {narrative : Narrative medium Memory A}

theorem resolve (told : first.ToldBy narrative)
    {succeeded : Cursor medium → A → Memory → Account medium Memory B}
    {failed : Failure → Memory → Account medium Memory B}
    {succeeded' : Cursor medium → A → Session Memory → Outcome medium Memory B}
    {failed' : Failure → Session Memory → Outcome medium Memory B}
    (onSuccess : ∀ cursor value session, succeeded' cursor value session =
      (succeeded cursor value session.memory).outcome session)
    (onFailure : ∀ reason session, failed' reason session =
      (failed reason session.memory).outcome session)
    (cursor : Cursor medium) (session : Session Memory) :
    (first cursor session).resolve succeeded' failed' =
      ((narrative cursor session.memory).resolve succeeded failed).outcome session := by
  rw [told cursor session]
  exact Account.outcome_resolve _ _ onSuccess onFailure

theorem leaf (wanted : Leaf medium A) :
    (Behaviour.leaf wanted : Behaviour medium Memory A).ToldBy (.leaf wanted) := by
  intro cursor session
  rw [Behaviour.leaf, Narrative.leaf]
  cases wanted.read cursor with
  | success next value =>
      exact congrArg (Outcome.success next value) (session.recordSome_eq_told ..)
  | failure reason => exact congrArg (Outcome.failure reason) (session.recordSome_eq_told ..)
  | fault problem => rfl

theorem function (run : Cursor medium → Memory → Reading medium A × Memory) :
    (Behaviour.function run).ToldBy (.function run) := by
  intro cursor session
  rw [Behaviour.function, Narrative.function]
  rcases run cursor session.memory with ⟨_ | _ | _, memory⟩ <;> rfl

theorem succeed (value : A) :
    (Behaviour.succeed value : Behaviour medium Memory A).ToldBy (.succeed value) :=
  fun _ _ => rfl

theorem fail (reason : Failure) :
    (Behaviour.fail reason : Behaviour medium Memory A).ToldBy (.fail reason) :=
  fun _ _ => rfl

theorem failRecorded (operation : Operation) (reason : Failure) :
    (Behaviour.failRecorded operation reason : Behaviour medium Memory A).ToldBy
      (.failRecorded operation reason) :=
  fun _ _ => rfl

theorem succeedRecorded (operation : Operation) (value : A) :
    (Behaviour.succeedRecorded operation value : Behaviour medium Memory A).ToldBy
      (.succeedRecorded operation value) :=
  fun _ _ => rfl

theorem announce (told : first.ToldBy narrative) (operation : Operation) :
    (Behaviour.announce operation first).ToldBy (.announce operation narrative) := by
  intro cursor session
  rw [Narrative.announce, Account.outcome_after _ _ session.memory]
  exact told cursor _

theorem chain (told : first.ToldBy narrative) {next : A → Behaviour medium Memory B}
    {nextNarrative : A → Narrative medium Memory B}
    (nextTold : ∀ value, (next value).ToldBy (nextNarrative value)) :
    (Behaviour.chain first next).ToldBy (.chain narrative nextNarrative) :=
  told.resolve (fun cursor value session => nextTold value cursor session) fun _ _ => rfl

theorem map (told : first.ToldBy narrative) (convert : A → B) :
    (Behaviour.map convert first).ToldBy (.map convert narrative) :=
  told.chain fun value => succeed (convert value)

theorem orElse (told : first.ToldBy narrative)
    {handle : Failure → Session Memory → Outcome medium Memory A}
    {handleAccount : Failure → Memory → Account medium Memory A}
    (onFailure : ∀ reason session, handle reason session =
      (handleAccount reason session.memory).outcome session)
    (cursor : Cursor medium) (session : Session Memory) :
    (first cursor session).orElse handle =
      ((narrative cursor session.memory).orElse handleAccount).outcome session :=
  told.resolve (fun next value session => succeed value next session) onFailure cursor session

theorem ap {function : Behaviour medium Memory (A → B)}
    {functionNarrative : Narrative medium Memory (A → B)}
    (functionTold : function.ToldBy functionNarrative) (told : first.ToldBy narrative) :
    (Behaviour.ap function first).ToldBy (.ap functionNarrative narrative) :=
  functionTold.chain fun convert => told.map convert

theorem mapError (told : first.ToldBy narrative) (convert : Failure → Failure) :
    (Behaviour.mapError convert first).ToldBy (.mapError convert narrative) :=
  fun cursor => told.orElse (fun reason session => fail (convert reason) cursor session) cursor

theorem label (told : first.ToldBy narrative) (name : String) :
    (Behaviour.label name first).ToldBy (.label name narrative) := by
  intro cursor session
  rw [Narrative.label, Account.outcome_within]
  exact congrArg (Outcome.mapSession fun final => final.labelled session.label)
    ((told.announce (.label name)).orElse
      (fun cause later => failRecorded _ (ruleFailure name cursor.index cause) cursor later) cursor
      (session.labelled name))

theorem parseAs {parser : Behaviour medium Memory String}
    {narrative : Narrative medium Memory String} (told : parser.ToldBy narrative)
    (reader : Reader A) : (Behaviour.parseAs reader parser).ToldBy (.parseAs reader narrative) := by
  intro cursor session
  apply told.resolve
  · intro next text later
    cases reader.read text <;> rfl
  · exact fun reason later => fail reason cursor later

theorem fresh (told : first.ToldBy narrative) (memory : Memory) :
    (Behaviour.fresh memory first).ToldBy (.fresh memory narrative) := by
  intro cursor session
  rw [Narrative.fresh, Account.outcome_remembering _ _ memory, Behaviour.fresh, told cursor]
  rfl

theorem tuple {types : List Type}
    {parts : (part : Fin types.length) → Behaviour medium Memory (types.get part)}
    {narratives : (part : Fin types.length) → Narrative medium Memory (types.get part)}
    (told : ∀ part, (parts part).ToldBy (narratives part)) :
    (Behaviour.tuple parts).ToldBy (.tuple narratives) := by
  induction types with
  | nil => exact succeed ()
  | cons A types inductionHypothesis =>
      exact (told ⟨0, Nat.succ_pos _⟩).chain fun first =>
        (inductionHypothesis fun part => told part.succ).map _

theorem row {count : Nat} {parts : Fin count → Behaviour medium Memory A}
    {narratives : Fin count → Narrative medium Memory A}
    (told : ∀ part, (parts part).ToldBy (narratives part)) :
    (Behaviour.row (List.ofFn parts)).ToldBy (.row (List.ofFn narratives)) := by
  induction count with
  | zero =>
      simp only [List.ofFn_zero]
      exact succeed []
  | succ count inductionHypothesis =>
      simp only [List.ofFn_succ, Behaviour.row_cons]
      exact (told 0).chain fun first => (inductionHypothesis fun part => told part.succ).map _

theorem attempt {count : Nat} {parts : Fin count → Behaviour medium Memory A}
    {narratives : Fin count → Narrative medium Memory A}
    (told : ∀ part, (parts part).ToldBy (narratives part)) (failures : List Failure) :
    (Behaviour.attempt failures (List.ofFn parts)).ToldBy
      (.attempt failures (List.ofFn narratives)) := by
  induction count generalizing failures with
  | zero =>
      simp only [List.ofFn_zero]
      exact fun _ _ => rfl
  | succ count inductionHypothesis =>
      simp only [List.ofFn_succ]
      exact fun cursor => (told 0).orElse (fun reason session =>
        inductionHypothesis (fun part => told part.succ) (failures ++ [reason]) cursor session)
        cursor

theorem optional (told : first.ToldBy narrative) :
    (Behaviour.optional first).ToldBy (.optional narrative) :=
  fun cursor => (told.map some).orElse (fun _ later => succeedRecorded _ _ cursor later) cursor

theorem repeatFrom (told : first.ToldBy narrative) (fuel : Nat) (values : List A) :
    (Behaviour.repeatFrom first fuel values).ToldBy (.repeatFrom narrative fuel values) := by
  induction fuel generalizing values with
  | zero => exact fun _ _ => rfl
  | succ fuel inductionHypothesis =>
      intro cursor session
      exact told.resolve (fun next value later => inductionHypothesis (value :: values) next later)
        (fun _ later => succeed values.reverse cursor later) cursor session

theorem recordCount {parser : Behaviour medium Memory (List A)}
    {narrative : Narrative medium Memory (List A)} (told : parser.ToldBy narrative)
    (operation : Nat → Operation) :
    (Behaviour.recordCount operation parser).ToldBy (.recordCount operation narrative) :=
  told.chain fun _ => succeedRecorded _ _

theorem many (told : first.ToldBy narrative) (fuel : Nat) :
    (Behaviour.many fuel first).ToldBy (.many fuel narrative) :=
  ((told.repeatFrom fuel []).recordCount .manyEnd).announce .many

theorem manyOne (told : first.ToldBy narrative) (fuel : Nat) :
    (Behaviour.manyOne fuel first).ToldBy (.manyOne fuel narrative) := by
  apply announce
  intro cursor session
  exact told.resolve
    (fun next value later => (told.repeatFrom fuel [value]).recordCount .manyOneEnd next later)
    (fun cause later => failRecorded _ (manyOneFailure cursor.index cause) cursor later) cursor
    session

theorem sepBy (told : first.ToldBy narrative) {separator : Behaviour medium Memory B}
    {separatorNarrative : Narrative medium Memory B}
    (separatorTold : separator.ToldBy separatorNarrative) (fuel : Nat) :
    (Behaviour.sepBy fuel separator first).ToldBy (.sepBy fuel separatorNarrative narrative) := by
  rw [Behaviour.sepBy_eq]
  apply announce
  intro cursor session
  have separated : (Behaviour.separated separator first).ToldBy
      (.chain separatorNarrative fun _ => narrative) := separatorTold.chain fun _ => told
  exact told.resolve
    (fun next value later => (separated.repeatFrom fuel [value]).recordCount .sepByEnd next later)
    (fun _ later => succeed [] cursor later) cursor session

end Behaviour.ToldBy

section

variable {signature : Signature}

/-- Where the rules are told by narratives, every parser is. -/
theorem Parser.behaviour_toldBy
    {call : (rule : signature.Rule) →
      Behaviour signature.medium signature.Memory (signature.result rule)}
    {narratives : (rule : signature.Rule) →
      Narrative signature.medium signature.Memory (signature.result rule)}
    (told : ∀ rule, (call rule).ToldBy (narratives rule)) (fuel : Nat) {A : Type}
    (parser : Parser signature A) :
    (parser.behaviour call fuel).ToldBy (parser.narrative narratives fuel) := by
  induction parser with
  | leaf wanted => exact .leaf wanted
  | function run => exact .function run
  | succeed value => exact .succeed value
  | fail reason => exact .fail reason
  | map convert parser told => exact told.map convert
  | chain parser next told nextTold => exact told.chain nextTold
  | ap applied argument told argumentTold => exact told.ap argumentTold
  | mapError convert parser told => exact told.mapError convert
  | label name parser told => exact told.label name
  | parseAs reader parser told => exact told.parseAs reader
  | sequence parts told => exact (Behaviour.ToldBy.tuple told).announce _
  | sequenceList parts told =>
      simp only [Parser.behaviour, Parser.narrative, Behaviour.sequenceList,
        Narrative.sequenceList, List.length_ofFn]
      exact (Behaviour.ToldBy.row told).announce _
  | choice alternatives told =>
      simp only [Parser.behaviour, Parser.narrative, Behaviour.choice, Narrative.choice,
        List.length_ofFn]
      exact (Behaviour.ToldBy.attempt told []).announce _
  | many parser told => exact told.many fuel
  | manyOne parser told => exact told.manyOne fuel
  | sepBy separator item separatorTold told => exact told.sepBy separatorTold fuel
  | optional parser told => exact told.optional
  | rule name => exact (told name).announce .lazy
  | fresh memory parser told => exact told.fresh memory

theorem Grammar.call_toldBy (grammar : Grammar signature) (fuel : Nat) (rule : signature.Rule) :
    (grammar.call fuel rule).ToldBy (grammar.told fuel rule) := by
  induction fuel generalizing rule with
  | zero => exact fun _ _ => rfl
  | succ fuel inductionHypothesis =>
      exact Parser.behaviour_toldBy inductionHypothesis fuel (grammar rule)

/-- The account of a parse tells its outcome in every session. -/
theorem Grammar.outcome_toldBy (grammar : Grammar signature) (fuel : Nat) {A : Type}
    (parser : Parser signature A) :
    (grammar.outcome fuel parser).ToldBy (grammar.account fuel parser) :=
  Parser.behaviour_toldBy (grammar.call_toldBy fuel) fuel parser

end

/-- Only the same cursors and the same failures are alike. -/
def Likeness.same (medium : Medium) : Likeness medium := ⟨Eq, Eq⟩

/-- In any two sessions an account tells the same end. -/
theorem Account.outcome_alike (account : Account medium Memory A)
    (session session' : Session Memory) :
    (account.outcome session).Alike (.same medium) (account.outcome session') := by
  cases account with
  | unfinished => exact .unfinished
  | fault problem => exact .fault problem
  | failure reason memory log => exact .failure rfl rfl
  | success cursor value memory log => exact .success rfl value rfl

/-- The line of an event shows the label of the event. Behind the column of the input and a blank,
which are 36 characters, stands the label with the blanks that fill it up to 15 characters, and then
a colon between blanks. -/
structure Event.ShowsLabel {medium : Medium} (input : List medium.Element) (event : Event) :
    Prop where
  parts : event.line input = column (Cursor.preview ⟨input, event.index⟩ lookahead) ++ " " ++
    padRight labelWidth event.label ++ " : " ++ event.ending
  place : event.label.toList ++ List.replicate (15 - event.label.toList.length) ' ' ++
    [' ', ':', ' '] <+: (event.line input).toList.drop 36

theorem Event.showsLabel {medium : Medium} (input : List medium.Element) (event : Event) :
    event.ShowsLabel input where
  parts := event.line_eq_parts input
  place := by
    have width := length_column (Cursor.preview ⟨input, event.index⟩ lookahead)
    rw [event.line_eq_parts]
    simp only [String.toList_append, padRight, String.toList_ofList, List.append_assoc]
    rw [List.drop_append, List.drop_of_length_le (by rw [width]; decide), width]
    exact ⟨event.ending.toList, by simp [columnCapacity, labelWidth]⟩

/-- The label in force is the same again, and the log has been recorded under it. Every line of the
log shows the label under which it was recorded. -/
structure Session.Records (session : Session Memory) (log : List Entry) (final : Session Memory) :
    Prop where
  label : final.label = session.label
  history : final.history = session.history ++ Entry.eventsOfAll session.label log
  trace : ∀ (medium : Medium) (input : List medium.Element), final.trace input =
    session.trace input ++ (Entry.eventsOfAll session.label log).map (Event.line input)
  lines : ∀ (medium : Medium) (input : List medium.Element),
    ∀ event ∈ Entry.eventsOfAll session.label log, event.ShowsLabel input

theorem Session.records_told (session : Session Memory) (memory : Memory) (log : List Entry) :
    session.Records log (session.told memory log) where
  label := rfl
  history := session.history_told memory log
  trace _ _ := by
    rw [Session.trace, Session.trace, session.history_told memory log, List.map_append]
  lines _ input event _ := event.showsLabel input

namespace Account

variable {account : Account medium Memory A} {session final : Session Memory}

/-- A success is told by an account of a success. -/
theorem records_of_success {next : Cursor medium} {value : A}
    (success : account.outcome session = .success next value final) :
    ∃ log, account = .success next value final.memory log ∧ session.Records log final := by
  cases account with
  | unfinished => cases success
  | fault problem => cases success
  | failure reason memory log => cases success
  | success last found memory log =>
      cases success
      exact ⟨log, rfl, session.records_told memory log⟩

/-- A failure is told by an account of a failure. -/
theorem records_of_failure {reason : Failure}
    (failed : account.outcome session = .failure reason final) :
    ∃ log, account = .failure reason final.memory log ∧ session.Records log final := by
  cases account with
  | unfinished => cases failed
  | fault problem => cases failed
  | failure cause memory log =>
      cases failed
      exact ⟨log, rfl, session.records_told memory log⟩
  | success last found memory log => cases failed

end Account

/-- A label is in force just in its scope. Whenever a parse returns, the label before it is in force
again, and each line of the trace shows the innermost label whose parse was in progress, or else the
label before the parse. How the parse ends does not depend on that label. -/
theorem Grammar.outcome_scopes_labels {signature : Signature} (grammar : Grammar signature)
    (fuel : Nat) {A : Type} (parser : Parser signature A) (cursor : Cursor signature.medium)
    (session : Session signature.Memory) :
    (∀ next value final, grammar.outcome fuel parser cursor session = .success next value final →
      ∃ log, grammar.account fuel parser cursor session.memory =
        .success next value final.memory log ∧ session.Records log final) ∧
    (∀ reason final, grammar.outcome fuel parser cursor session = .failure reason final →
      ∃ log, grammar.account fuel parser cursor session.memory =
        .failure reason final.memory log ∧ session.Records log final) ∧
    ∀ label, (grammar.outcome fuel parser cursor (session.labelled label)).Alike (.same _)
      (grammar.outcome fuel parser cursor session) := by
  have told := grammar.outcome_toldBy fuel parser cursor
  refine ⟨?_, ?_, ?_⟩
  · intro next value final success
    exact Account.records_of_success ((told session).symm.trans success)
  · intro reason final failed
    exact Account.records_of_failure ((told session).symm.trans failed)
  · intro label
    rw [told, told]
    exact Account.outcome_alike ..

namespace Tokens

/-- Two nested labels stand behind a text without one. -/
def nestedLabels : Parser signature (String × Option String) :=
  .pair (.leaf (.literal "a"))
    (.label "outer" (.optional (.label "inner" (.leaf (.literal "b")))))

/-- Behind the inner label the outer one is in force again, and in the end the one before both. -/
theorem outcome_scopes_nested_labels :
    ∃ final, grammar.outcome 1 nestedLabels (.ofText "ac") ((Session.initial ()).labelled "top") =
        .success ⟨"ac".toList, 1⟩ ("a", none) final ∧ final.label = "top" ∧
      final.history.map Event.label =
        ["top", "top", "outer", "inner", "inner", "inner", "outer"] := by
  have success : ∃ final, grammar.outcome 1 nestedLabels (.ofText "ac")
      ((Session.initial ()).labelled "top") = .success ⟨"ac".toList, 1⟩ ("a", none) final :=
    ⟨_, rfl⟩
  have told : ∃ log, grammar.account 1 nestedLabels (.ofText "ac") () =
      .success ⟨"ac".toList, 1⟩ ("a", none) () log ∧
        (Entry.eventsOfAll "top" log).map Event.label =
          ["top", "top", "outer", "inner", "inner", "inner", "outer"] := ⟨_, rfl, rfl⟩
  obtain ⟨final, same⟩ := success
  obtain ⟨log, account, labels⟩ := told
  obtain ⟨log', account', records⟩ := (grammar.outcome_scopes_labels 1 nestedLabels (.ofText "ac")
    ((Session.initial ()).labelled "top")).1 _ _ _ same
  cases account.symm.trans account'
  refine ⟨final, same, records.label, ?_⟩
  rw [records.history, List.map_append]
  exact labels

end Tokens

end ParserCombinators
