/-
This file shows that parsing loses nothing and doubles nothing. Values of parsers without
conversions spell out exactly what was read.
-/

import ParserCombinators.Grammar.Tokens
import ParserCombinators.Proofs.Outcome
import ParserCombinators.Proofs.Reading

namespace ParserCombinators

variable {medium : Medium} {Memory A B C : Type}

/-- Between the two cursors stand exactly these elements. -/
def Cursor.Reads (cursor : Cursor medium) (elements : List medium.Element) (next : Cursor medium) :
    Prop :=
  ∃ more, cursor.rest = elements ++ more ∧ next = cursor.past elements

namespace Cursor.Reads

theorem nothing (cursor : Cursor medium) : cursor.Reads [] cursor := ⟨cursor.rest, rfl, rfl⟩

theorem append {cursor next last : Cursor medium} {first second : List medium.Element}
    (reads : cursor.Reads first next) (readsOn : next.Reads second last) :
    cursor.Reads (first ++ second) last := by
  obtain ⟨more, unread, rfl⟩ := reads
  obtain ⟨rest, unread', rfl⟩ := readsOn
  rw [rest_past unread] at unread'
  refine ⟨rest, ?_, past_past cursor first second⟩
  rw [unread, unread', List.append_assoc]

end Cursor.Reads

theorem Reading.reads_of_consume {cursor next : Cursor medium} {length : Nat}
    {value : List medium.Element → A} {result : A}
    (success : consume cursor length value = .success next result) :
    ∃ elements, cursor.Reads elements next ∧ result = value elements ∧
      medium.measure elements = length := by
  rw [consume] at success
  split at success
  next => cases success
  next moved advanced =>
    rw [Cursor.advance] at advanced
    rw [Cursor.cut] at success
    cases found : medium.upTo cursor.rest length with
    | none => simp [found] at success
    | some elements =>
        obtain ⟨more, unread, rfl⟩ := Medium.upTo_eq_some found
        rw [found] at success
        cases success
        split at advanced
        · cases advanced
        · split at advanced
          · cases advanced
          · cases advanced
            exact ⟨elements, ⟨more, unread, rfl⟩, rfl, rfl⟩

/-- The elements that the value of a leaf stands for. -/
def Leaf.spelling : Leaf medium A → A → List medium.Element
  | .literal _ => String.toList
  | .pattern _ => String.toList
  | .satisfy _ _ => fun element => [element]
  | .take _ => id

theorem Leaf.reads_spelling (leaf : Leaf medium A) {cursor next : Cursor medium} {value : A}
    (success : leaf.read cursor = .success next value) :
    cursor.Reads (leaf.spelling value) next := by
  cases leaf with
  | literal expected =>
      simp only [read, readLiteral] at success
      split at success
      next =>
        obtain ⟨elements, reads, rfl, _⟩ := Reading.reads_of_consume success
        simpa [spelling] using reads
      next => cases success
  | pattern wanted =>
      simp only [read, readPattern] at success
      split at success
      next =>
        obtain ⟨elements, reads, rfl, _⟩ := Reading.reads_of_consume success
        simpa [spelling] using reads
      next => cases success
  | satisfy description accepts =>
      simp only [read, readSatisfy] at success
      split at success
      next element found =>
        obtain ⟨elements, ⟨more, unread, same⟩, rfl, total⟩ := Reading.reads_of_consume success
        -- The element that was seen is the only one that was read.
        rw [Medium.measure_slice] at total
        obtain ⟨only, rfl⟩ := List.length_eq_one_iff.mp total
        have seen := (Option.filter_eq_some_iff.mp found).1
        rw [Cursor.peek, unread] at seen
        cases seen
        exact ⟨more, unread, same⟩
      next => cases success
  | take count =>
      simp only [read, readTake] at success
      split at success
      next => cases success
      next =>
        obtain ⟨elements, reads, rfl, _⟩ := Reading.reads_of_consume success
        exact reads

/-- The spellings of all values of a tuple, one after the other. -/
def Tuple.spelling {Element : Type} : {types : List Type} →
    ((part : Fin types.length) → types.get part → List Element) → Tuple types → List Element
  | [], _, _ => []
  | _ :: _, spell, (first, others) =>
      spell ⟨0, Nat.succ_pos _⟩ first ++ spelling (fun part => spell part.succ) others

/-- When the behaviour succeeds, its value spells out what it has read. -/
def Behaviour.Spells (behaviour : Behaviour medium Memory A) (spell : A → List medium.Element) :
    Prop :=
  ∀ ⦃cursor session next value final⦄, behaviour cursor session = .success next value final →
    cursor.Reads (spell value) next

namespace Behaviour.Spells

variable {first : Behaviour medium Memory A} {spell : A → List medium.Element}

theorem leaf (wanted : Leaf medium A) :
    (Behaviour.leaf wanted : Behaviour medium Memory A).Spells wanted.spelling := by
  intro cursor session next value final success
  rw [Behaviour.leaf] at success
  split at success
  next => cases success
  next moved result found =>
    cases success
    exact wanted.reads_spelling found
  next => cases success

theorem announce (spells : first.Spells spell) (operation : Operation) :
    (Behaviour.announce operation first).Spells spell := by
  intro cursor session next value final success
  exact spells success

theorem mapError (spells : first.Spells spell) (convert : Failure → Failure) :
    (Behaviour.mapError convert first).Spells spell := by
  intro cursor session next value final success
  rcases Outcome.orElse_eq_success success with same | ⟨_, _, _, impossible⟩
  · exact spells same
  · cases impossible

theorem label (spells : first.Spells spell) (name : String) :
    (Behaviour.label name first).Spells spell := by
  intro cursor session next value final success
  obtain ⟨last, labelled⟩ := Outcome.mapSession_eq_success success
  rcases Outcome.orElse_eq_success labelled with same | ⟨_, _, _, impossible⟩
  · exact spells same
  · cases impossible

theorem fresh (spells : first.Spells spell) (memory : Memory) :
    (Behaviour.fresh memory first).Spells spell := by
  intro cursor session next value final success
  obtain ⟨last, same⟩ := Outcome.mapSession_eq_success success
  exact spells same

/-- A value in front of others is spelled out before them. -/
theorem pair (spells : first.Spells spell) {others : Behaviour medium Memory B}
    {spellOthers : B → List medium.Element} (othersSpell : others.Spells spellOthers)
    (join : A → B → C) {spellBoth : C → List medium.Element}
    (joined : ∀ value value', spellBoth (join value value') = spell value ++ spellOthers value') :
    (Behaviour.chain first fun value => Behaviour.map (join value) others).Spells spellBoth := by
  intro cursor session next value final success
  obtain ⟨middle, value, session', firstSame, went⟩ := Outcome.andThen_eq_success success
  obtain ⟨last, value', session'', othersSame, same⟩ := Outcome.andThen_eq_success went
  cases same
  rw [joined]
  exact (spells firstSame).append (othersSpell othersSame)

theorem tuple {types : List Type}
    {parts : (part : Fin types.length) → Behaviour medium Memory (types.get part)}
    {spellPart : (part : Fin types.length) → types.get part → List medium.Element}
    (spells : ∀ part, (parts part).Spells (spellPart part)) :
    (Behaviour.tuple parts).Spells (Tuple.spelling spellPart) := by
  induction types with
  | nil =>
      intro cursor session next value final success
      cases success
      exact .nothing cursor
  | cons A types inductionHypothesis =>
      have others := inductionHypothesis fun part => spells part.succ
      exact (spells ⟨0, Nat.succ_pos _⟩).pair others Prod.mk fun _ _ => rfl

theorem row {count : Nat} {parts : Fin count → Behaviour medium Memory A}
    (spells : ∀ part, (parts part).Spells spell) :
    (Behaviour.row (List.ofFn parts)).Spells (List.flatMap spell) := by
  induction count with
  | zero =>
      rw [List.ofFn_zero]
      intro cursor session next value final success
      cases success
      exact .nothing cursor
  | succ count inductionHypothesis =>
      have others := inductionHypothesis fun part => spells part.succ
      rw [List.ofFn_succ, Behaviour.row_cons]
      exact (spells 0).pair others List.cons fun _ _ => List.flatMap_cons

/-- The alternative that succeeds begins where the choice began. -/
theorem attempt {count : Nat} {alternatives : Fin count → Behaviour medium Memory A}
    (spells : ∀ index, (alternatives index).Spells spell) (failures : List Failure) :
    (Behaviour.attempt failures (List.ofFn alternatives)).Spells spell := by
  induction count generalizing failures with
  | zero =>
      rw [List.ofFn_zero]
      intro cursor session next value final success
      cases success
  | succ count inductionHypothesis =>
      rw [List.ofFn_succ]
      intro cursor session next value final success
      rcases Outcome.orElse_eq_success success with same | ⟨reason, session', _, later⟩
      · exact spells 0 same
      · exact inductionHypothesis (fun index => spells index.succ) _ later

/-- An absent value spells out nothing. -/
theorem optional (spells : first.Spells spell) :
    (Behaviour.optional first).Spells fun value => value.elim [] spell := by
  intro cursor session next value final success
  rcases Outcome.orElse_eq_success success with present | ⟨reason, session', _, absent⟩
  · obtain ⟨middle, value, session', same, converted⟩ := Outcome.andThen_eq_success present
    cases converted
    exact spells same
  · cases absent
    exact .nothing cursor

/-- The rounds of a repetition read one after the other, and the attempt that ends it reads
nothing. -/
theorem repeatFrom (spells : first.Spells spell) {fuel : Nat} {values : List A}
    {cursor next : Cursor medium} {session final : Session Memory} {all : List A}
    (success : Behaviour.repeatFrom first fuel values cursor session = .success next all final) :
    ∃ later, all = values.reverse ++ later ∧ cursor.Reads (later.flatMap spell) next := by
  induction fuel generalizing values cursor session with
  | zero => cases success
  | succ fuel inductionHypothesis =>
      rcases Outcome.resolve_eq_success success with
        ⟨middle, value, session', same, went⟩ | ⟨reason, session', _, ended⟩
      · obtain ⟨later, rfl, reads⟩ := inductionHypothesis went
        refine ⟨value :: later, by simp, ?_⟩
        rw [List.flatMap_cons]
        exact (spells same).append reads
      · cases ended
        exact ⟨[], by simp, .nothing _⟩

theorem recordCount {parser : Behaviour medium Memory (List A)}
    {spellAll : List A → List medium.Element} (spells : parser.Spells spellAll)
    (operation : Nat → Operation) : (Behaviour.recordCount operation parser).Spells spellAll := by
  intro cursor session next values final success
  obtain ⟨middle, values, session', same, recorded⟩ := Outcome.andThen_eq_success success
  cases recorded
  exact spells same

theorem many (spells : first.Spells spell) (fuel : Nat) :
    (Behaviour.many fuel first).Spells (List.flatMap spell) := by
  apply announce
  apply recordCount
  intro cursor session next values final success
  obtain ⟨later, rfl, reads⟩ := spells.repeatFrom success
  exact reads

theorem manyOne (spells : first.Spells spell) (fuel : Nat) :
    (Behaviour.manyOne fuel first).Spells (List.flatMap spell) := by
  apply announce
  intro cursor session next values final success
  rcases Outcome.resolve_eq_success success with
    ⟨middle, value, session', same, went⟩ | ⟨_, _, _, impossible⟩
  · obtain ⟨last, values, session'', repeated, recorded⟩ := Outcome.andThen_eq_success went
    cases recorded
    obtain ⟨later, rfl, reads⟩ := spells.repeatFrom repeated
    exact (spells same).append reads
  · cases impossible

end Behaviour.Spells

section

variable {signature : Signature}

/-- The value of the parser is spelled out leaf by leaf, from left to right. The spelling of a rule
is given, and all alternatives of a choice are spelled in the same way. -/
inductive Parser.SpelledBy
    (rules : (name : signature.Rule) → signature.result name → List signature.medium.Element) :
    {A : Type} → Parser signature A → (A → List signature.medium.Element) → Prop
  | leaf {A : Type} (wanted : Leaf signature.medium A) :
      SpelledBy rules (.leaf wanted) wanted.spelling
  | mapError {A : Type} (convert : Failure → Failure) {parser : Parser signature A}
      {spell : A → List signature.medium.Element} (spelled : SpelledBy rules parser spell) :
      SpelledBy rules (.mapError convert parser) spell
  | label {A : Type} (name : String) {parser : Parser signature A}
      {spell : A → List signature.medium.Element} (spelled : SpelledBy rules parser spell) :
      SpelledBy rules (.label name parser) spell
  | sequence {types : List Type}
      {parts : (part : Fin types.length) → Parser signature (types.get part)}
      {spell : (part : Fin types.length) → types.get part → List signature.medium.Element}
      (spelled : ∀ part, SpelledBy rules (parts part) (spell part)) :
      SpelledBy rules (.sequence parts) (Tuple.spelling spell)
  | sequenceList {A : Type} {count : Nat} {parts : Fin count → Parser signature A}
      {spell : A → List signature.medium.Element}
      (spelled : ∀ part, SpelledBy rules (parts part) spell) :
      SpelledBy rules (.sequenceList parts) (List.flatMap spell)
  | choice {A : Type} {count : Nat} {alternatives : Fin count → Parser signature A}
      {spell : A → List signature.medium.Element}
      (spelled : ∀ index, SpelledBy rules (alternatives index) spell) :
      SpelledBy rules (.choice alternatives) spell
  | many {A : Type} {parser : Parser signature A} {spell : A → List signature.medium.Element}
      (spelled : SpelledBy rules parser spell) :
      SpelledBy rules (.many parser) (List.flatMap spell)
  | manyOne {A : Type} {parser : Parser signature A} {spell : A → List signature.medium.Element}
      (spelled : SpelledBy rules parser spell) :
      SpelledBy rules (.manyOne parser) (List.flatMap spell)
  | optional {A : Type} {parser : Parser signature A} {spell : A → List signature.medium.Element}
      (spelled : SpelledBy rules parser spell) :
      SpelledBy rules (.optional parser) fun value => value.elim [] spell
  | rule (name : signature.Rule) : SpelledBy rules (.rule name) (rules name)
  | fresh {A : Type} (memory : signature.Memory) {parser : Parser signature A}
      {spell : A → List signature.medium.Element} (spelled : SpelledBy rules parser spell) :
      SpelledBy rules (.fresh memory parser) spell

variable {rules : (name : signature.Rule) → signature.result name → List signature.medium.Element}
  {spell : A → List signature.medium.Element}

/-- When the rules spell out what they read, a parser does. -/
theorem Parser.behaviour_spells
    {call : (rule : signature.Rule) →
      Behaviour signature.medium signature.Memory (signature.result rule)}
    (callSpells : ∀ rule, (call rule).Spells (rules rule)) (fuel : Nat)
    {parser : Parser signature A} (spelled : parser.SpelledBy rules spell) :
    (parser.behaviour call fuel).Spells spell := by
  induction spelled with
  | leaf wanted => exact .leaf wanted
  | mapError convert _ spells => exact spells.mapError convert
  | label name _ spells => exact spells.label name
  | sequence _ spells => exact (Behaviour.Spells.tuple spells).announce _
  | sequenceList _ spells => exact (Behaviour.Spells.row spells).announce _
  | choice _ spells => exact (Behaviour.Spells.attempt spells []).announce _
  | many _ spells => exact spells.many fuel
  | manyOne _ spells => exact spells.manyOne fuel
  | optional _ spells => exact spells.optional
  | rule name => exact (callSpells name).announce _
  | fresh memory _ spells => exact spells.fresh memory

theorem Grammar.call_spells {grammar : Grammar signature}
    (spelled : ∀ rule, (grammar rule).SpelledBy rules (rules rule)) (fuel : Nat)
    (rule : signature.Rule) : (grammar.call fuel rule).Spells (rules rule) := by
  induction fuel generalizing rule with
  | zero =>
      intro cursor session next value final success
      cases success
  | succ fuel inductionHypothesis =>
      exact Parser.behaviour_spells inductionHypothesis fuel (spelled rule)

/-- The spelling of the value is the part of the input between the beginning of a parse and its end.
From inside an element nothing is read. -/
theorem Grammar.value_spells_input {grammar : Grammar signature}
    (spelled : ∀ rule, (grammar rule).SpelledBy rules (rules rule)) {parser : Parser signature A}
    (parserSpelled : parser.SpelledBy rules spell) {fuel : Nat}
    {cursor next : Cursor signature.medium} {session final : Session signature.Memory} {value : A}
    (success : grammar.outcome fuel parser cursor session = .success next value final) :
    next.input = cursor.input ∧
      (cursor.OnBoundary → ∃ first more, cursor.input = first ++ (spell value ++ more) ∧
        signature.medium.measure first = cursor.index ∧
          signature.medium.measure (first ++ spell value) = next.index) ∧
      (¬ cursor.OnBoundary → spell value = [] ∧ next.index = cursor.index) := by
  have spells := Parser.behaviour_spells (Grammar.call_spells spelled fuel) fuel parserSpelled
  obtain ⟨more, unread, rfl⟩ := spells success
  refine ⟨rfl, ?_, ?_⟩
  · intro boundary
    obtain ⟨first, same, total⟩ := boundary.split
    refine ⟨first, more, ?_, total, ?_⟩
    · rw [← unread]
      exact same
    · rw [signature.medium.measure_append, total]
      rfl
  · intro inside
    rw [Cursor.rest_eq_nil_of_not_onBoundary inside] at unread
    have nothing := (List.append_eq_nil_iff.mp unread.symm).1
    rw [nothing]
    exact ⟨rfl, rfl⟩

end

namespace Tokens

/-- Runs of digits with optional white space behind each of them. -/
def digitRuns : Parser signature (List (Tuple [String, Option String])) :=
  .many (.sequence (fun | 0 => digits | 1 => .optional whiteSpace :
    (part : Fin [String, Option String].length) →
      Parser signature ([String, Option String].get part)))

/-- Absent white space spells out nothing. -/
def spellRun : Tuple [String, Option String] → List Char :=
  Tuple.spelling (fun | 0 => String.toList | 1 => fun space => space.elim [] String.toList :
    (part : Fin [String, Option String].length) →
      [String, Option String].get part → List Char)

def spellRule (rule : Empty) : Unit → List Char := nomatch rule

theorem digitRuns_spelled : digitRuns.SpelledBy spellRule (List.flatMap spellRun) := by
  apply Parser.SpelledBy.many
  apply Parser.SpelledBy.sequence
  intro part
  match part with
  | 0 => exact @Parser.SpelledBy.leaf signature spellRule String (.pattern .digits)
  | 1 =>
      have spelled := @Parser.SpelledBy.leaf signature spellRule String (.pattern .whiteSpace)
      exact spelled.optional

/-- The values of two runs spell out the whole text. -/
theorem digitRuns_spell_input :
    (∀ rule, (grammar rule).SpelledBy spellRule (spellRule rule)) ∧
      digitRuns.SpelledBy spellRule (List.flatMap spellRun) ∧
        ∃ final, grammar.outcome 3 digitRuns (.ofText "1 2") (.initial ()) =
            .success ⟨"1 2".toList, 3⟩ [("1", some " ", ()), ("2", none, ())] final ∧
          ∃ first more, "1 2".toList = first ++ ("1 2".toList ++ more) := by
  have rulesSpelled (rule : Empty) : (grammar rule).SpelledBy spellRule (spellRule rule) :=
    nomatch rule
  have success : ∃ final, grammar.outcome 3 digitRuns (.ofText "1 2") (.initial ()) =
      .success ⟨"1 2".toList, 3⟩ [("1", some " ", ()), ("2", none, ())] final := ⟨_, by rfl⟩
  obtain ⟨final, same⟩ := success
  have spells := Grammar.value_spells_input rulesSpelled digitRuns_spelled same
  have boundary : (Cursor.ofText "1 2").OnBoundary := ⟨[], List.nil_prefix, rfl⟩
  obtain ⟨first, more, split, _⟩ := spells.2.1 boundary
  exact ⟨rulesSpelled, digitRuns_spelled, final, same, first, more, split⟩

end Tokens

end ParserCombinators
