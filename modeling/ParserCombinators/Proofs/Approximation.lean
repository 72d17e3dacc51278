/-
This file compares two parses that run on different amounts of fuel. One parse approximates another
when it is unfinished or like the other one. Parses that approximate each other end in the same way.
-/

import ParserCombinators.Proofs.Calls
import ParserCombinators.Proofs.Ending
import ParserCombinators.Proofs.Equations

namespace ParserCombinators

section

variable {medium : Medium} {Memory A B : Type} {likeness : Likeness medium}

/-- The first outcome is unfinished, or it is like the second one. -/
def Outcome.Approximates (likeness : Likeness medium) (first second : Outcome medium Memory A) :
    Prop :=
  first = .unfinished ∨ first.Alike likeness second

/-- A behaviour approximates another one when they begin alike. -/
def Behaviour.Approximates (likeness : Likeness medium) (first second : Behaviour medium Memory A) :
    Prop :=
  ∀ cursor cursor', likeness.cursors cursor cursor' → ∀ session session' : Session Memory,
    session.memory = session'.memory →
      (first cursor session).Approximates likeness (second cursor' session')

namespace Outcome.Approximates

variable {first second : Outcome medium Memory A}

/-- Only two parses that have both returned go on. -/
theorem resolve (approximates : first.Approximates likeness second)
    {succeeded succeeded' : Cursor medium → A → Session Memory → Outcome medium Memory B}
    {failed failed' : Failure → Session Memory → Outcome medium Memory B}
    (onSuccess : ∀ cursor cursor' value session session', likeness.cursors cursor cursor' →
      session.memory = session'.memory →
        (succeeded cursor value session).Approximates likeness (succeeded' cursor' value session'))
    (onFailure : ∀ reason reason' session session', likeness.failures reason reason' →
      session.memory = session'.memory →
        (failed reason session).Approximates likeness (failed' reason' session')) :
    (first.resolve succeeded failed).Approximates likeness (second.resolve succeeded' failed') := by
  rcases approximates with unfinished | alike
  · exact .inl (by rw [unfinished]; rfl)
  · cases alike with
    | unfinished => exact .inl rfl
    | fault problem => exact .inr (.fault problem)
    | failure failures memories => exact onFailure _ _ _ _ failures memories
    | success cursors value memories => exact onSuccess _ _ value _ _ cursors memories

theorem andThen (approximates : first.Approximates likeness second)
    {next next' : Cursor medium → A → Session Memory → Outcome medium Memory B}
    (onSuccess : ∀ cursor cursor' value session session', likeness.cursors cursor cursor' →
      session.memory = session'.memory →
        (next cursor value session).Approximates likeness (next' cursor' value session')) :
    (first.andThen next).Approximates likeness (second.andThen next') :=
  approximates.resolve onSuccess fun _ _ _ _ failures memories => .inr (.failure failures memories)

/-- A finished outcome stays as it is when the second parse is refined. -/
theorem of_refines (approximates : first.Approximates likeness second)
    {third : Outcome medium Memory A} (refines : second.Refines third) :
    first.Approximates likeness third := by
  rcases refines with unfinished | rfl
  · rcases approximates with unfinished' | alike
    · exact .inl unfinished'
    · rw [unfinished] at alike
      cases alike with
      | unfinished => exact .inl rfl
  · exact approximates

end Outcome.Approximates

namespace Behaviour.Approximates

variable {first second : Behaviour medium Memory A}

theorem of_alike (alike : first.Alike likeness second) : first.Approximates likeness second :=
  fun cursor cursor' cursors session session' memories =>
    .inr (alike cursor cursor' cursors session session' memories)

theorem chain (approximates : first.Approximates likeness second)
    {next next' : A → Behaviour medium Memory B}
    (nextApproximates : ∀ value, (next value).Approximates likeness (next' value)) :
    (Behaviour.chain first next).Approximates likeness (Behaviour.chain second next') := by
  intro cursor cursor' cursors session session' memories
  apply (approximates cursor cursor' cursors session session' memories).andThen
  intro middle middle' value later later' middles laterMemories
  exact nextApproximates value middle middle' middles later later' laterMemories

section

variable {first second : Behaviour medium Memory (List A)}

theorem recordCount (approximates : first.Approximates likeness second)
    (operation operation' : Nat → Operation) :
    (Behaviour.recordCount operation first).Approximates likeness
      (Behaviour.recordCount operation' second) :=
  approximates.chain fun values => of_alike (.succeedRecorded _ _ values)

/-- A count may be recorded on one side only. -/
theorem recordCount_left (approximates : first.Approximates likeness second)
    (operation : Nat → Operation) :
    (Behaviour.recordCount operation first).Approximates likeness second := by
  rw [← second.chain_succeed]
  exact approximates.chain fun values => of_alike fun _ _ cursors _ _ memories =>
    .success cursors values memories

theorem recordCount_right (approximates : first.Approximates likeness second)
    (operation : Nat → Operation) :
    first.Approximates likeness (.recordCount operation second) := by
  rw [← first.chain_succeed]
  exact approximates.chain fun values => of_alike fun _ _ cursors _ _ memories =>
    .success cursors values memories

end

end Behaviour.Approximates

/-- What is refined is also approximated, if what the better behaviour does depends on nothing but
the cursor and what is remembered. -/
theorem Behaviour.Refines.approximates {first second : Behaviour medium Memory A}
    (refines : first.Refines second) (alike : second.Alike likeness second) :
    first.Approximates likeness second := by
  intro cursor cursor' cursors session session' memories
  rcases refines cursor session with unfinished | same
  · exact .inl unfinished
  · rw [same]
    exact .inr (alike cursor cursor' cursors session session' memories)

end

namespace Grammar

variable {signature : Signature} {A : Type}

/-- More fuel only lets more parses finish. -/
theorem outcome_approximates_of_le (grammar : Grammar signature) {fuel fuel' : Nat}
    (enough : fuel ≤ fuel') (parser : Parser signature A) :
    (grammar.outcome fuel parser).Approximates (.same _) (grammar.outcome fuel' parser) :=
  Behaviour.Refines.approximates
    (Parser.behaviour_refines (grammar.call_refines enough) enough parser)
    (grammar.outcome_alike_same fuel' parser)

theorem repeatFrom_refines (grammar : Grammar signature) {fuel fuel' rounds rounds' : Nat}
    (enough : fuel ≤ fuel') (enoughRounds : rounds ≤ rounds') (parser : Parser signature A)
    (values : List A) :
    (Behaviour.repeatFrom (grammar.outcome fuel parser) rounds values).Refines
      (.repeatFrom (grammar.outcome fuel' parser) rounds' values) :=
  Behaviour.Refines.repeatFrom
    (Parser.behaviour_refines (grammar.call_refines enough) enough parser) enoughRounds values

/-- With enough fuel the parse ends in a fault. -/
def Faults (grammar : Grammar signature) (parser : Parser signature A)
    (cursor : Cursor signature.medium) (session : Session signature.Memory) (problem : Fault) :
    Prop :=
  ∃ fuel, grammar.outcome fuel parser cursor session = .fault problem

/-- Two parsers have the same end at a cursor: the same success, the same failure, the same fault or
none at all. -/
structure SameEnd (grammar : Grammar signature) (parser parser' : Parser signature A)
    (cursor : Cursor signature.medium) (session : Session signature.Memory) : Prop where
  succeeds : ∀ next value, grammar.Succeeds parser cursor session next value ↔
    grammar.Succeeds parser' cursor session next value
  fails : ∀ reason, grammar.FailsWith parser cursor session reason ↔
    grammar.FailsWith parser' cursor session reason
  faults : ∀ problem, grammar.Faults parser cursor session problem ↔
    grammar.Faults parser' cursor session problem
  diverges : grammar.Diverges parser cursor session ↔ grammar.Diverges parser' cursor session

section

variable {grammar : Grammar signature} {parser parser' : Parser signature A}
  {cursor : Cursor signature.medium} {session : Session signature.Memory}

/-- Some amount of fuel lets the second parse come as far as the first one. -/
def Approximates (grammar : Grammar signature) (parser parser' : Parser signature A)
    (cursor : Cursor signature.medium) (session : Session signature.Memory) : Prop :=
  ∀ fuel, ∃ fuel', (grammar.outcome fuel parser cursor session).Approximates (.same _)
    (grammar.outcome fuel' parser' cursor session)

namespace Approximates

theorem succeeds (approximates : grammar.Approximates parser parser' cursor session)
    {next : Cursor signature.medium} {value : A}
    (succeeds : grammar.Succeeds parser cursor session next value) :
    grammar.Succeeds parser' cursor session next value := by
  obtain ⟨fuel, final, success⟩ := succeeds
  obtain ⟨fuel', unfinished | alike⟩ := approximates fuel
  · cases success.symm.trans unfinished
  · rw [success] at alike
    generalize same : grammar.outcome fuel' parser' cursor session = outcome at alike
    cases alike with
    | success cursors value memories =>
        obtain rfl : next = _ := cursors
        exact ⟨fuel', _, same⟩

theorem fails (approximates : grammar.Approximates parser parser' cursor session)
    {reason : Failure} (fails : grammar.FailsWith parser cursor session reason) :
    grammar.FailsWith parser' cursor session reason := by
  obtain ⟨fuel, final, failed⟩ := fails
  obtain ⟨fuel', unfinished | alike⟩ := approximates fuel
  · cases failed.symm.trans unfinished
  · rw [failed] at alike
    generalize same : grammar.outcome fuel' parser' cursor session = outcome at alike
    cases alike with
    | failure failures memories =>
        obtain rfl : reason = _ := failures
        exact ⟨fuel', _, same⟩

theorem faults (approximates : grammar.Approximates parser parser' cursor session)
    {problem : Fault} (faults : grammar.Faults parser cursor session problem) :
    grammar.Faults parser' cursor session problem := by
  obtain ⟨fuel, fault⟩ := faults
  obtain ⟨fuel', unfinished | alike⟩ := approximates fuel
  · cases fault.symm.trans unfinished
  · rw [fault] at alike
    generalize same : grammar.outcome fuel' parser' cursor session = outcome at alike
    cases alike with
    | fault problem => exact ⟨fuel', same⟩

/-- A parse that diverges approximates only parses that diverge. -/
theorem diverges (approximates : grammar.Approximates parser parser' cursor session)
    (diverges : grammar.Diverges parser' cursor session) :
    grammar.Diverges parser cursor session := by
  intro fuel
  obtain ⟨fuel', unfinished | alike⟩ := approximates fuel
  · exact unfinished
  · rw [diverges fuel'] at alike
    generalize grammar.outcome fuel parser cursor session = outcome at alike
    cases alike with
    | unfinished => rfl

/-- Parsers that approximate each other have the same end. -/
theorem sameEnd (forward : grammar.Approximates parser parser' cursor session)
    (backward : grammar.Approximates parser' parser cursor session) :
    grammar.SameEnd parser parser' cursor session where
  succeeds _ _ := ⟨forward.succeeds, backward.succeeds⟩
  fails _ := ⟨forward.fails, backward.fails⟩
  faults _ := ⟨forward.faults, backward.faults⟩
  diverges := ⟨backward.diverges, forward.diverges⟩

end Approximates

/-- A parse that does not diverge succeeds, fails or ends in a fault. -/
theorem ends_of_not_diverges (ends : ¬ grammar.Diverges parser cursor session) :
    (∃ next value, grammar.Succeeds parser cursor session next value) ∨
      grammar.Fails parser cursor session ∨
        ∃ problem, grammar.Faults parser cursor session problem := by
  obtain ⟨fuel, finished⟩ := Classical.not_forall.mp ends
  cases same : grammar.outcome fuel parser cursor session with
  | unfinished => exact absurd same finished
  | fault problem => exact .inr (.inr ⟨problem, fuel, same⟩)
  | failure reason final => exact .inr (.inl ⟨fuel, reason, final, same⟩)
  | success next value final => exact .inl ⟨next, value, fuel, final, same⟩

end

/-- A pure parser ends in the same way in every session, so what is remembered does not matter. -/
structure Pure (grammar : Grammar signature) (parser : Parser signature A) : Prop where
  succeeds : ∀ {cursor session next value}, grammar.Succeeds parser cursor session next value →
    ∀ session', grammar.Succeeds parser cursor session' next value
  fails : ∀ {cursor session reason}, grammar.FailsWith parser cursor session reason →
    ∀ session', grammar.FailsWith parser cursor session' reason

theorem Pure.fails_in {grammar : Grammar signature} {parser : Parser signature A}
    (pure : grammar.Pure parser) {cursor : Cursor signature.medium}
    {session : Session signature.Memory} (fails : grammar.Fails parser cursor session)
    (session' : Session signature.Memory) : grammar.Fails parser cursor session' := by
  obtain ⟨fuel, reason, final, failure⟩ := fails
  exact (pure.fails ⟨fuel, final, failure⟩ session').fails

/-- Labels and events do not matter for a success. -/
theorem Succeeds.withSession {grammar : Grammar signature} {parser : Parser signature A}
    {cursor next : Cursor signature.medium} {value : A}
    {session session' : Session signature.Memory}
    (succeeds : grammar.Succeeds parser cursor session next value)
    (memories : session.memory = session'.memory) :
    grammar.Succeeds parser cursor session' next value :=
  (succeeds_iff_of_alike (fun _ _ => id) fun fuel =>
    grammar.outcome_alike_same fuel parser cursor cursor rfl session session' memories).mp succeeds

/-- Labels and events do not matter for a failure. -/
theorem FailsWith.withSession {grammar : Grammar signature} {parser : Parser signature A}
    {cursor : Cursor signature.medium} {reason : Failure}
    {session session' : Session signature.Memory}
    (fails : grammar.FailsWith parser cursor session reason)
    (memories : session.memory = session'.memory) :
    grammar.FailsWith parser cursor session' reason := by
  obtain ⟨reason', rfl, fails'⟩ := failsWith_of_alike (fun fuel =>
    grammar.outcome_alike_same fuel parser cursor cursor rfl session session' memories) fails
  exact fails'

/-- Where all memories are the same, every parser is pure. -/
theorem pure_of_subsingleton [Subsingleton signature.Memory] (grammar : Grammar signature)
    (parser : Parser signature A) : grammar.Pure parser where
  succeeds succeeds session' := succeeds.withSession (Subsingleton.elim _ session'.memory)
  fails fails session' := fails.withSession (Subsingleton.elim _ session'.memory)

end Grammar

end ParserCombinators
