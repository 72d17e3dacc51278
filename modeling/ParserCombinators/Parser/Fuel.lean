/-
This file shows that fuel only decides whether a parser finishes. More fuel keeps every finished
outcome as it is.
-/

import ParserCombinators.Parser.Basic

namespace ParserCombinators

variable {medium : Medium} {Memory A B : Type}

/-- The second outcome is the first one, or the first one is unfinished. -/
def Outcome.Refines (first second : Outcome medium Memory A) : Prop :=
  first = .unfinished ∨ first = second

/-- One behaviour finishes at least as often as another and then agrees with it. -/
def Behaviour.Refines (first second : Behaviour medium Memory A) : Prop :=
  ∀ cursor session, (first cursor session).Refines (second cursor session)

namespace Outcome.Refines

theorem refl (outcome : Outcome medium Memory A) : outcome.Refines outcome := .inr rfl

theorem resolve {first second : Outcome medium Memory A} (refines : first.Refines second)
    {succeeded succeeded' : Cursor medium → A → Session Memory → Outcome medium Memory B}
    {failed failed' : Failure → Session Memory → Outcome medium Memory B}
    (succeededRefines : ∀ cursor value session,
      (succeeded cursor value session).Refines (succeeded' cursor value session))
    (failedRefines : ∀ reason session,
      (failed reason session).Refines (failed' reason session)) :
    (first.resolve succeeded failed).Refines (second.resolve succeeded' failed') := by
  rcases refines with unfinished | same
  · exact .inl (by rw [unfinished]; rfl)
  · rw [same]
    cases second with
    | success cursor value session => exact succeededRefines cursor value session
    | failure reason session => exact failedRefines reason session
    | fault problem => exact refl _
    | unfinished => exact refl _

theorem andThen {first second : Outcome medium Memory A} (refines : first.Refines second)
    {next next' : Cursor medium → A → Session Memory → Outcome medium Memory B}
    (nextRefines : ∀ cursor value session,
      (next cursor value session).Refines (next' cursor value session)) :
    (first.andThen next).Refines (second.andThen next') :=
  refines.resolve nextRefines fun _ _ => refl _

theorem orElse {first second : Outcome medium Memory A} (refines : first.Refines second)
    {handle handle' : Failure → Session Memory → Outcome medium Memory A}
    (handleRefines : ∀ reason session,
      (handle reason session).Refines (handle' reason session)) :
    (first.orElse handle).Refines (second.orElse handle') :=
  refines.resolve (fun _ _ _ => refl _) handleRefines

theorem mapSession {first second : Outcome medium Memory A} (refines : first.Refines second)
    (change : Session Memory → Session Memory) :
    (first.mapSession change).Refines (second.mapSession change) :=
  refines.resolve (fun _ _ _ => refl _) fun _ _ => refl _

end Outcome.Refines

namespace Behaviour.Refines

theorem refl (behaviour : Behaviour medium Memory A) : behaviour.Refines behaviour :=
  fun _ _ => .inr rfl

theorem announce {first second : Behaviour medium Memory A} (refines : first.Refines second)
    (operation : Operation) :
    (Behaviour.announce operation first).Refines (Behaviour.announce operation second) :=
  fun cursor _ => refines cursor _

theorem chain {first second : Behaviour medium Memory A} (refines : first.Refines second)
    {next next' : A → Behaviour medium Memory B}
    (nextRefines : ∀ value, (next value).Refines (next' value)) :
    (Behaviour.chain first next).Refines (Behaviour.chain second next') :=
  fun cursor session => (refines cursor session).andThen fun cursor value session =>
    nextRefines value cursor session

theorem map {first second : Behaviour medium Memory A} (refines : first.Refines second)
    (convert : A → B) :
    (Behaviour.map convert first).Refines (Behaviour.map convert second) :=
  fun cursor session => (refines cursor session).andThen fun _ _ _ => .refl _

theorem tuple {types : List Type}
    {first second : (part : Fin types.length) → Behaviour medium Memory (types.get part)}
    (refines : ∀ part, (first part).Refines (second part)) :
    (Behaviour.tuple first).Refines (Behaviour.tuple second) := by
  induction types with
  | nil => exact refl _
  | cons A types inductionHypothesis =>
      exact chain (refines ⟨0, Nat.succ_pos _⟩) fun _ =>
        map (inductionHypothesis fun part => refines part.succ) _

theorem row {count : Nat} {first second : Fin count → Behaviour medium Memory A}
    (refines : ∀ part, (first part).Refines (second part)) :
    (Behaviour.row (List.ofFn first)).Refines (Behaviour.row (List.ofFn second)) := by
  induction count with
  | zero =>
      simp only [List.ofFn_zero]
      exact refl _
  | succ count inductionHypothesis =>
      simp only [List.ofFn_succ, Behaviour.row_cons]
      exact chain (refines 0) fun _ =>
        map (inductionHypothesis fun part => refines part.succ) _

theorem attempt {count : Nat} {first second : Fin count → Behaviour medium Memory A}
    (refines : ∀ index, (first index).Refines (second index)) (failures : List Failure) :
    (Behaviour.attempt failures (List.ofFn first)).Refines
      (Behaviour.attempt failures (List.ofFn second)) := by
  induction count generalizing failures with
  | zero =>
      simp only [List.ofFn_zero]
      exact refl _
  | succ count inductionHypothesis =>
      simp only [List.ofFn_succ]
      exact fun cursor session => (refines 0 cursor session).orElse fun _ session =>
        inductionHypothesis (fun index => refines index.succ) _ cursor session

theorem optional {first second : Behaviour medium Memory A} (refines : first.Refines second) :
    (Behaviour.optional first).Refines (Behaviour.optional second) :=
  fun cursor session => (refines.map some cursor session).orElse fun _ _ => .refl _

theorem repeatFrom {first second : Behaviour medium Memory A} (refines : first.Refines second)
    {fuel fuel' : Nat} (enough : fuel ≤ fuel') (values : List A) :
    (Behaviour.repeatFrom first fuel values).Refines
      (Behaviour.repeatFrom second fuel' values) := by
  intro cursor session
  induction fuel generalizing fuel' values cursor session with
  | zero => exact .inl rfl
  | succ fuel inductionHypothesis =>
      obtain ⟨fuel', rfl⟩ : ∃ smaller, fuel' = smaller + 1 := ⟨fuel' - 1, by omega⟩
      exact (refines cursor session).resolve
        (fun next value session =>
          inductionHypothesis (by omega) (value :: values) next session)
        fun _ _ => .refl _

theorem recordCount {first second : Behaviour medium Memory (List A)}
    (refines : first.Refines second) (operation : Nat → Operation) :
    (Behaviour.recordCount operation first).Refines
      (Behaviour.recordCount operation second) :=
  refines.chain fun _ => refl _

theorem many {first second : Behaviour medium Memory A} (refines : first.Refines second)
    {fuel fuel' : Nat} (enough : fuel ≤ fuel') :
    (Behaviour.many fuel first).Refines (Behaviour.many fuel' second) :=
  announce (recordCount (refines.repeatFrom enough []) _) _

theorem manyOne {first second : Behaviour medium Memory A} (refines : first.Refines second)
    {fuel fuel' : Nat} (enough : fuel ≤ fuel') :
    (Behaviour.manyOne fuel first).Refines (Behaviour.manyOne fuel' second) :=
  announce
    (fun cursor session => (refines cursor session).resolve
      (fun next value session =>
        recordCount (refines.repeatFrom enough [value]) _ next session)
      fun _ _ => .refl _) _

theorem sepBy {first second : Behaviour medium Memory B}
    {item item' : Behaviour medium Memory A} (refines : first.Refines second)
    (itemRefines : item.Refines item') {fuel fuel' : Nat} (enough : fuel ≤ fuel') :
    (Behaviour.sepBy fuel first item).Refines (Behaviour.sepBy fuel' second item') := by
  rw [Behaviour.sepBy_eq, Behaviour.sepBy_eq]
  apply announce
  intro cursor session
  apply (itemRefines cursor session).resolve
  · intro next value later
    have round := refines.chain fun _ => itemRefines
    exact (round.repeatFrom enough [value]).recordCount _ next later
  · exact fun _ _ => .refl _

end Behaviour.Refines

variable {signature : Signature}

/-- Better calls and more rounds give a better behaviour of the whole parser. -/
theorem Parser.behaviour_refines
    {call call' : (rule : signature.Rule) →
      Behaviour signature.medium signature.Memory (signature.result rule)}
    (callRefines : ∀ rule, (call rule).Refines (call' rule)) {fuel fuel' : Nat}
    (enough : fuel ≤ fuel') {A : Type} (parser : Parser signature A) :
    (parser.behaviour call fuel).Refines (parser.behaviour call' fuel') := by
  induction parser with
  | leaf wanted => exact .refl _
  | function run => exact .refl _
  | succeed value => exact .refl _
  | fail reason => exact .refl _
  | map convert parser refines => exact refines.map convert
  | chain parser next refines nextRefines => exact refines.chain nextRefines
  | ap applied argument refines argumentRefines =>
      exact fun cursor session => (refines cursor session).andThen fun cursor _ session =>
        (argumentRefines cursor session).andThen fun _ _ _ => .refl _
  | mapError convert parser refines =>
      exact fun cursor session => (refines cursor session).orElse fun _ _ => .refl _
  | label name parser refines =>
      exact fun cursor session =>
        ((refines.announce _ cursor _).orElse fun _ _ => .refl _).mapSession _
  | parseAs reader parser refines =>
      exact fun cursor session => (refines cursor session).andThen fun _ _ _ => .refl _
  | sequence parts refines => exact Behaviour.Refines.announce (.tuple refines) _
  | sequenceList parts refines =>
      simp only [Parser.behaviour, Behaviour.sequenceList, List.length_ofFn]
      exact Behaviour.Refines.announce (.row refines) _
  | choice alternatives refines =>
      simp only [Parser.behaviour, Behaviour.choice, List.length_ofFn]
      exact Behaviour.Refines.announce (.attempt refines []) _
  | many parser refines => exact refines.many enough
  | manyOne parser refines => exact refines.manyOne enough
  | sepBy separator item refines itemRefines => exact refines.sepBy itemRefines enough
  | optional parser refines => exact refines.optional
  | rule name => exact (callRefines name).announce _
  | fresh memory parser refines =>
      exact fun cursor session => (refines cursor _).mapSession _

theorem Grammar.call_refines (grammar : Grammar signature) {fuel fuel' : Nat}
    (enough : fuel ≤ fuel') (rule : signature.Rule) :
    (grammar.call fuel rule).Refines (grammar.call fuel' rule) := by
  induction fuel generalizing fuel' rule with
  | zero => exact fun _ _ => .inl rfl
  | succ fuel inductionHypothesis =>
      obtain ⟨fuel', rfl⟩ : ∃ smaller, fuel' = smaller + 1 := ⟨fuel' - 1, by omega⟩
      exact Parser.behaviour_refines (inductionHypothesis (by omega)) (by omega) (grammar rule)

/-- A finished outcome stays the same with more fuel. -/
theorem Grammar.outcome_eq_of_le (grammar : Grammar signature) {fuel fuel' : Nat}
    (enough : fuel ≤ fuel') {A : Type} (parser : Parser signature A)
    (cursor : Cursor signature.medium) (session : Session signature.Memory)
    (finished : grammar.outcome fuel parser cursor session ≠ .unfinished) :
    grammar.outcome fuel' parser cursor session = grammar.outcome fuel parser cursor session :=
  ((Parser.behaviour_refines (grammar.call_refines enough) enough parser cursor
    session).resolve_left finished).symm

end ParserCombinators
