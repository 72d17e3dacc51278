/-
This file shows that combinators keep parsers safe. A safe parser is never a fault, and it moves
its cursor only as allowed.
-/

import ParserCombinators.Proofs.Nullable
import ParserCombinators.Proofs.Outcome

namespace ParserCombinators

variable {medium : Medium} {Memory A B : Type}

/-- A blame says which failures a parser may report that began at a cursor. A parser that began
earlier may report the same failures. -/
structure Blame (medium : Medium) where
  allows : Cursor medium → Failure → Prop
  earlier : ∀ {cursor next : Cursor medium} {reason : Failure},
    cursor.Leads next → allows next reason → allows cursor reason

/-- Every failure is allowed. -/
def Blame.any : Blame medium := ⟨fun _ _ => True, fun _ _ => trivial⟩

/-- A safe behaviour is never a fault, moves as parsers may, and reports what the blame allows.
Only under the given condition does it succeed without moving. -/
def Behaviour.Safe (blame : Blame medium) (mayStay : Prop)
    (behaviour : Behaviour medium Memory A) : Prop :=
  ∀ cursor, cursor.Valid → ∀ session, (behaviour cursor session).Ensures
    (fun next _ _ => cursor.Leads next ∧ (next.index = cursor.index → mayStay))
    fun reason _ => blame.allows cursor reason

/-- A plain function is lawful when it is never a fault and moves as parsers may. -/
def LawfulFunction (run : Cursor medium → Memory → Reading medium A × Memory) : Prop :=
  ∀ cursor, cursor.Valid → ∀ memory,
    match (run cursor memory).1 with
    | .fault _ => False
    | .failure _ => True
    | .success next _ => cursor.Leads next

namespace Behaviour.Safe

variable {blame : Blame medium} {mayStay mayStay' : Prop} {first : Behaviour medium Memory A}

theorem imp (safe : first.Safe blame mayStay) (weaker : mayStay → mayStay') :
    first.Safe blame mayStay' := by
  intro cursor valid session
  exact (safe cursor valid session).imp
    (fun _ _ _ ⟨leads, stays⟩ => ⟨leads, fun same => weaker (stays same)⟩) fun _ _ holds => holds

/-- Leaves are safe where the blame allows failures of leaves. -/
theorem leaf (leaf : Leaf medium A)
    (allowed : ∀ (cursor : Cursor medium) kind message, kind.ofLeaf = true → cursor.Valid →
      blame.allows cursor (.newAt kind message cursor.index)) :
    (Behaviour.leaf leaf : Behaviour medium Memory A).Safe blame leaf.MayStay := by
  intro cursor valid session
  rcases leaf.consumes_or_refuses valid with
    ⟨consumed, more, value, unread, stays, success⟩ | ⟨kind, message, ofLeaf, failure⟩
  · rw [Behaviour.leaf, success]
    refine ⟨Cursor.leads_past valid unread, fun same => stays ?_⟩
    rw [← Medium.measure_eq_zero_iff]
    simp only [Cursor.past] at same
    omega
  · rw [Behaviour.leaf, failure]
    exact allowed cursor kind message ofLeaf valid

theorem function {run : Cursor medium → Memory → Reading medium A × Memory}
    (lawful : LawfulFunction run) : (Behaviour.function run).Safe .any (FunctionMayStay run) := by
  intro cursor valid session
  have law := lawful cursor valid session.memory
  rw [Behaviour.function]
  rcases outcome : run cursor session.memory with ⟨reading, memory⟩
  rw [outcome] at law
  cases reading with
  | fault problem => exact law
  | failure reason => trivial
  | success next value => exact ⟨law, fun same => ⟨cursor, _, next, value, by rw [outcome], same⟩⟩

theorem succeed (value : A) :
    (Behaviour.succeed value : Behaviour medium Memory A).Safe blame True := by
  intro cursor valid session
  exact ⟨.refl valid, fun _ => trivial⟩

theorem succeedRecorded (operation : Operation) (value : A) :
    (Behaviour.succeedRecorded operation value : Behaviour medium Memory A).Safe blame True := by
  intro cursor valid session
  exact ⟨.refl valid, fun _ => trivial⟩

theorem fail {reason : Failure} (allowed : ∀ cursor : Cursor medium, blame.allows cursor reason) :
    (Behaviour.fail reason : Behaviour medium Memory A).Safe blame False := by
  intro cursor _ session
  exact allowed cursor

theorem announce (safe : first.Safe blame mayStay) (operation : Operation) :
    (Behaviour.announce operation first).Safe blame mayStay := by
  intro cursor valid session
  exact safe cursor valid _

theorem map (safe : first.Safe blame mayStay) (convert : A → B) :
    (Behaviour.map convert first).Safe blame mayStay := by
  intro cursor valid session
  exact (safe cursor valid session).andThen fun _ _ _ moved => moved

/-- Both parsers must stay for their chain to stay. -/
theorem chain (safe : first.Safe blame mayStay) {next : A → Behaviour medium Memory B}
    {nextMayStay : A → Prop} (nextSafe : ∀ value, (next value).Safe blame (nextMayStay value)) :
    (Behaviour.chain first next).Safe blame (mayStay ∧ ∃ value, nextMayStay value) := by
  intro cursor valid session
  refine (safe cursor valid session).andThen fun middle value session ⟨leads, stays⟩ => ?_
  refine (nextSafe value middle (leads.valid valid) session).imp ?_ ?_
  · rintro last _ _ ⟨leadsOn, staysOn⟩
    refine ⟨leads.trans leadsOn, fun same => ?_⟩
    have before := leads.forward
    have after := leadsOn.forward
    exact ⟨stays (by omega), value, staysOn (by omega)⟩
  · intro reason _ allowed
    exact blame.earlier leads allowed

/-- The function is applied to the argument that follows it. -/
theorem ap {applied : Behaviour medium Memory (A → B)} {argument : Behaviour medium Memory A}
    (safe : applied.Safe blame mayStay) (argumentSafe : argument.Safe blame mayStay') :
    (Behaviour.ap applied argument).Safe blame (mayStay ∧ mayStay') := by
  have chained := safe.chain fun convert => argumentSafe.map convert
  exact chained.imp fun ⟨stays, _, argumentStays⟩ => ⟨stays, argumentStays⟩

theorem mapError {convert : Failure → Failure} (safe : first.Safe blame mayStay)
    (allowed : ∀ cursor reason, blame.allows cursor reason →
      blame.allows cursor (convert reason)) :
    (Behaviour.mapError convert first).Safe blame mayStay := by
  intro cursor valid session
  exact (safe cursor valid session).orElse fun reason _ holds => allowed cursor reason holds

theorem label {name : String} (safe : first.Safe blame mayStay)
    (allowed : ∀ cursor cause, cursor.Valid → blame.allows cursor cause →
      blame.allows cursor (ruleFailure name cursor.index cause)) :
    (Behaviour.label name first).Safe blame mayStay := by
  intro cursor valid session
  apply Outcome.Ensures.mapSession
  exact (safe cursor valid _).orElse fun cause _ cursorAllows =>
    allowed cursor cause valid cursorAllows

theorem parseAs {parser : Behaviour medium Memory String} {reader : Reader A}
    (safe : parser.Safe blame mayStay)
    (allowed : ∀ (cursor : Cursor medium) text, cursor.Valid →
      blame.allows cursor (readerFailure reader.name text cursor.index)) :
    (Behaviour.parseAs reader parser).Safe blame mayStay := by
  intro cursor valid session
  refine (safe cursor valid session).andThen fun next text session moved => ?_
  cases read : reader.read text with
  | none => exact allowed cursor text valid
  | some value => exact moved

theorem fresh {memory : Memory} (safe : first.Safe blame mayStay) :
    (Behaviour.fresh memory first).Safe blame mayStay := by
  intro cursor valid session
  apply Outcome.Ensures.mapSession
  exact safe cursor valid _

/-- All parts must stay for their tuple to stay. -/
theorem tuple {types : List Type}
    {parts : (part : Fin types.length) → Behaviour medium Memory (types.get part)}
    {partMayStay : Fin types.length → Prop}
    (safe : ∀ part, (parts part).Safe blame (partMayStay part)) :
    (Behaviour.tuple parts).Safe blame (∀ part, partMayStay part) := by
  induction types with
  | nil => exact (succeed ()).imp fun _ part => nomatch part
  | cons A types inductionHypothesis =>
      have others := inductionHypothesis fun part => safe part.succ
      have chained := (safe ⟨0, Nat.succ_pos _⟩).chain fun first =>
        others.map fun others => (first, others)
      exact chained.imp fun ⟨firstStays, _, othersStay⟩ => Fin.cases firstStays othersStay

theorem row {count : Nat} {parts : Fin count → Behaviour medium Memory A}
    {partMayStay : Fin count → Prop} (safe : ∀ part, (parts part).Safe blame (partMayStay part)) :
    (Behaviour.row (List.ofFn parts)).Safe blame (∀ part, partMayStay part) := by
  induction count with
  | zero =>
      rw [List.ofFn_zero]
      exact (succeed []).imp fun _ part => nomatch part
  | succ count inductionHypothesis =>
      have others := inductionHypothesis fun part => safe part.succ
      have chained := (safe 0).chain fun first => others.map (first :: ·)
      rw [List.ofFn_succ, Behaviour.row_cons]
      exact chained.imp fun ⟨firstStays, _, othersStay⟩ => Fin.cases firstStays othersStay

/-- When all alternatives fail, there is one more cause for each of them. The blame allows the
causes at the cursor from which every alternative begins. -/
theorem attempt {count : Nat} {alternatives : Fin count → Behaviour medium Memory A}
    {alternativeMayStay : Fin count → Prop}
    (safe : ∀ index, (alternatives index).Safe blame (alternativeMayStay index))
    (failures : List Failure) (cursor : Cursor medium) (valid : cursor.Valid)
    (session : Session Memory) (soFar : ∀ reason ∈ failures, blame.allows cursor reason) :
    (Behaviour.attempt failures (List.ofFn alternatives) cursor session).Ensures
      (fun next _ _ => cursor.Leads next ∧
        (next.index = cursor.index → ∃ index, alternativeMayStay index))
      fun reason _ => ∃ causes, causes.length = failures.length + count ∧
        (∀ cause ∈ causes, blame.allows cursor cause) ∧
          reason = choiceFailure cursor.index causes := by
  induction count generalizing failures session with
  | zero =>
      rw [List.ofFn_zero]
      exact ⟨failures, rfl, soFar, rfl⟩
  | succ count inductionHypothesis =>
      rw [List.ofFn_succ]
      have began := (safe 0 cursor valid session).imp
        (fun next _ _ ⟨leads, stays⟩ =>
          (⟨leads, fun same => ⟨0, stays same⟩⟩ : cursor.Leads next ∧
            (next.index = cursor.index → ∃ index, alternativeMayStay index)))
        fun reason _ reasonAllowed => reasonAllowed
      refine began.orElse fun reason session reasonAllowed => ?_
      have later := inductionHypothesis (fun index => safe index.succ) (failures ++ [reason])
        session fun other member => by
          rcases List.mem_append.mp member with early | last
          · exact soFar other early
          · rw [List.mem_singleton.mp last]
            exact reasonAllowed
      refine later.imp ?_ ?_
      · rintro _ _ _ ⟨leads, stays⟩
        exact ⟨leads, fun same => (stays same).elim fun index staysHere =>
          ⟨index.succ, staysHere⟩⟩
      · rintro _ _ ⟨causes, total, causesAllowed, same⟩
        refine ⟨causes, ?_, causesAllowed, same⟩
        rw [total, List.length_append, List.length_singleton]
        omega

/-- A choice that fails has as many causes as alternatives. -/
theorem choice {count : Nat} {alternatives : Fin count → Behaviour medium Memory A}
    {alternativeMayStay : Fin count → Prop}
    (safe : ∀ index, (alternatives index).Safe blame (alternativeMayStay index))
    (allowed : ∀ (cursor : Cursor medium) session causes final, cursor.Valid →
      causes.length = count → (∀ cause ∈ causes, blame.allows cursor cause) →
        Behaviour.choice (List.ofFn alternatives) cursor session =
          .failure (choiceFailure cursor.index causes) final →
        blame.allows cursor (choiceFailure cursor.index causes)) :
    (Behaviour.choice (List.ofFn alternatives)).Safe blame
      (∃ index, alternativeMayStay index) := by
  intro cursor valid session
  have attempted := attempt safe [] cursor valid
    (session.record cursor.index (.choice (List.ofFn alternatives).length) .began) nofun
  refine attempted.remember.imp (fun _ _ _ moved => moved.1) ?_
  rintro _ final ⟨⟨causes, total, causesAllowed, rfl⟩, failed⟩
  rw [List.length_nil, Nat.zero_add] at total
  exact allowed cursor session causes final valid total causesAllowed failed

theorem optional (safe : first.Safe blame mayStay) :
    (Behaviour.optional first).Safe blame True := by
  intro cursor valid session
  refine ((safe.map some).imp fun _ => trivial) cursor valid session |>.orElse fun _ session _ => ?_
  exact ⟨.refl valid, fun _ => trivial⟩

/-- A repetition only ever moves on and never fails. -/
theorem repeatFrom (safe : first.Safe blame mayStay) (fuel : Nat) (values : List A) :
    (Behaviour.repeatFrom first fuel values).Safe blame True := by
  intro cursor valid session
  induction fuel generalizing values cursor session with
  | zero => trivial
  | succ fuel inductionHypothesis =>
      refine (safe cursor valid session).resolve ?_ ?_
      · rintro next value session ⟨leads, _⟩
        have later := inductionHypothesis (value :: values) next (leads.valid valid) session
        exact later.imp
          (fun _ _ _ ⟨leadsOn, _⟩ => ⟨leads.trans leadsOn, fun _ => trivial⟩)
          fun _ _ allowed => blame.earlier leads allowed
      · intro _ session _
        exact ⟨.refl valid, fun _ => trivial⟩

theorem recordCount {parser : Behaviour medium Memory (List A)} (safe : parser.Safe blame mayStay)
    (operation : Nat → Operation) :
    (Behaviour.recordCount operation parser).Safe blame mayStay := by
  exact (safe.chain fun values => succeedRecorded (operation values.length) values).imp And.left

theorem many (safe : first.Safe blame mayStay) (fuel : Nat) :
    (Behaviour.many fuel first).Safe blame True :=
  ((safe.repeatFrom fuel []).recordCount _).announce _

/-- The first attempt decides where a repetition goes that begins with it. -/
theorem firstThenRepeat {step : Behaviour medium Memory A} (safe : first.Safe blame mayStay)
    (stepSafe : step.Safe blame mayStay') (fuel : Nat) (last : Nat → Operation)
    (whenFailed : Cursor medium → Failure → Behaviour medium Memory (List A))
    {mayStayFailed : Prop}
    (failedSafe : ∀ cursor, cursor.Valid → ∀ reason, blame.allows cursor reason → ∀ session,
      (whenFailed cursor reason cursor session).Ensures
        (fun next _ _ => cursor.Leads next ∧ (next.index = cursor.index → mayStayFailed))
        fun reason _ => blame.allows cursor reason) :
    Behaviour.Safe blame (mayStay ∨ mayStayFailed) fun cursor session =>
      (first cursor session).resolve
        (fun next value session =>
          Behaviour.recordCount last (Behaviour.repeatFrom step fuel [value]) next session)
        fun reason session => whenFailed cursor reason cursor session := by
  intro cursor valid session
  refine (safe cursor valid session).resolve ?_ ?_
  · rintro next value session ⟨leads, stays⟩
    have later := (stepSafe.repeatFrom fuel [value]).recordCount last next (leads.valid valid)
      session
    refine later.imp ?_ fun _ _ allowed => blame.earlier leads allowed
    rintro final _ _ ⟨leadsOn, _⟩
    refine ⟨leads.trans leadsOn, fun same => .inl (stays ?_)⟩
    have before := leads.forward
    have after := leadsOn.forward
    omega
  · intro reason session allowed
    exact (failedSafe cursor valid reason allowed session).imp
      (fun _ _ _ ⟨leads, stays⟩ => ⟨leads, fun same => .inr (stays same)⟩) fun _ _ holds => holds

theorem manyOne (safe : first.Safe blame mayStay) (fuel : Nat)
    (allowed : ∀ cursor cause, cursor.Valid → blame.allows cursor cause →
      blame.allows cursor (manyOneFailure cursor.index cause)) :
    (Behaviour.manyOne fuel first).Safe blame mayStay := by
  have repeated : Behaviour.Safe blame (mayStay ∨ False) _ :=
    safe.firstThenRepeat safe fuel .manyOneEnd
      (fun cursor cause => Behaviour.failRecorded .manyOne (manyOneFailure cursor.index cause))
      fun cursor valid cause cursorAllows _ => allowed cursor cause valid cursorAllows
  exact (repeated.imp (by simp)).announce _

theorem sepBy {separator : Behaviour medium Memory B} {item : Behaviour medium Memory A}
    (safe : separator.Safe blame mayStay) (itemSafe : item.Safe blame mayStay') (fuel : Nat) :
    (Behaviour.sepBy fuel separator item).Safe blame True := by
  have repeated : Behaviour.Safe blame (mayStay' ∨ True) _ :=
    itemSafe.firstThenRepeat (safe.chain fun _ => itemSafe) fuel .sepByEnd
      (fun _ _ => Behaviour.succeed []) fun cursor valid _ _ _ => ⟨.refl valid, fun _ => trivial⟩
  rw [Behaviour.sepBy_eq]
  exact (repeated.imp fun _ => trivial).announce _

end Behaviour.Safe

end ParserCombinators
