/-
This file shows what the evaluation of a text accepts, and with which values.
-/

import ParserCombinators.Proofs.Calculator.Program
import ParserCombinators.Proofs.Calculator.Termination

namespace ParserCombinators.Calculator

open ParserCombinators.Text

variable {N : Type}

/-- An evaluation succeeds when the program is read to the end of the text. -/
theorem evaluate_eq_success_iff (arithmetic : Arithmetic N) (text : String) (values : List N) :
    (∃ cursor session, evaluate arithmetic text = .success cursor values session) ↔
      ∃ cursor session, readProgram arithmetic text = .success cursor values session ∧
        cursor.isEnd = true := by
  rw [evaluate]
  cases readProgram arithmetic text with
  | unfinished => simp [Outcome.andThen, Outcome.resolve]
  | fault problem => simp [Outcome.andThen, Outcome.resolve]
  | failure reason session => simp [Outcome.andThen, Outcome.resolve]
  | success next found session =>
      by_cases isEnd : next.isEnd = true
      · simp only [Outcome.andThen, Outcome.resolve, isEnd, if_true]
        constructor
        · rintro ⟨_, _, ⟨⟩⟩
          exact ⟨_, _, rfl, isEnd⟩
        · rintro ⟨_, _, ⟨⟩, _⟩
          exact ⟨_, _, rfl⟩
      · simp only [Outcome.andThen, Outcome.resolve, isEnd]
        constructor
        · rintro ⟨_, _, ⟨⟩⟩
        · rintro ⟨_, _, ⟨⟩, atEnd⟩
          exact absurd atEnd isEnd

/-- An evaluation returns when the program is read. -/
theorem evaluate_returned {arithmetic : Arithmetic N} {text : String}
    (returned : (readProgram arithmetic text).Returned) : (evaluate arithmetic text).Returned := by
  rw [evaluate]
  cases same : readProgram arithmetic text with
  | unfinished =>
      rw [same] at returned
      exact returned
  | fault problem =>
      rw [same] at returned
      exact returned
  | failure reason session => trivial
  | success next found session =>
      simp only [Outcome.andThen, Outcome.resolve]
      split
      · trivial
      · trivial

section

variable (arithmetic : Arithmetic N) {text : String}
  (addressable : (Cursor.ofText text).length < Cursor.indexBound)

include addressable

/-- Only programs are accepted. -/
theorem exists_isProgram_of_readProgram {cursor : Cursor .text} {values : List N}
    {session : Session Unit}
    (success : readProgram arithmetic text = .success cursor values session)
    (isEnd : cursor.isEnd = true) :
    ∃ trees, IsProgram text.toList trees ∧ trees.mapM (Tree.value arithmetic) = some values := by
  have ready : (Cursor.ofText text).Ready := Cursor.ready_start addressable
  have reads : Outcome.Ensures _ _ (readProgram arithmetic text) :=
    sound_program (recognizes_call arithmetic (fuel text)) ready (.initial ())
  obtain ⟨consumed, more, trees, unread, rfl, isProgram, known⟩ := reads.of_success success
  have nothing : more = [] := by
    rw [← Cursor.rest_past unread]
    exact (ready.past unread).onBoundary.rest_eq_nil_iff.mpr isEnd
  have whole : consumed = text.toList := by
    rw [nothing, List.append_nil] at unread
    exact unread.symm.trans (Cursor.rest_ofText text)
  exact ⟨trees, whole ▸ isProgram, known⟩

/-- Every program whose expressions have values is accepted. -/
theorem readProgram_of_isProgram {trees : List Tree} {values : List N}
    (isProgram : IsProgram text.toList trees)
    (known : trees.mapM (Tree.value arithmetic) = some values) :
    ∃ cursor session, readProgram arithmetic text = .success cursor values session ∧
      cursor.isEnd = true := by
  have ready : (Cursor.ofText text).Ready := Cursor.ready_start addressable
  have whole := Cursor.rest_ofText text
  have reads : Outcome.Ensures _ _ (readProgram arithmetic text) :=
    complete_program (recognizes_call arithmetic (fuel text)) ready (whole ▸ isProgram) known
      (.initial ())
  have returned := readProgram_returned arithmetic addressable
  cases same : readProgram arithmetic text with
  | unfinished =>
      rw [same] at returned
      exact returned.elim
  | fault problem =>
      rw [same] at returned
      exact returned.elim
  | failure reason session => exact (reads.of_failure same).elim
  | success next found session =>
      obtain ⟨rfl, rfl⟩ := reads.of_success same
      have split : (Cursor.ofText text).rest = (Cursor.ofText text).rest ++ [] :=
        (List.append_nil _).symm
      have atEnd := (ready.past split).onBoundary.rest_eq_nil_iff.mp (Cursor.rest_past split)
      exact ⟨_, _, rfl, atEnd⟩

end

/-- When the reader reads every number, every derived tree has a value. -/
theorem Derives.exists_value {arithmetic : Arithmetic N}
    (reads : ∀ number, IsNumber number →
      (arithmetic.reader.read (String.ofList number)).isSome = true)
    {phrase : Phrase} {text : List Char} {tree : Tree} (derives : Derives phrase text tree)
    (leftKnown : ∀ level left, phrase = .steps level left →
      ∃ value, left.value arithmetic = some value) :
    ∃ value, tree.value arithmetic = some value := by
  induction derives with
  | number isNumber _ => exact Option.isSome_iff_exists.mp (reads _ isNumber)
  | parentheses _ _ _ innerKnown => exact innerKnown nofun
  | @level level _ _ left _ _ _ operandKnown stepsKnown =>
      apply stepsKnown
      rintro _ _ ⟨⟩
      exact operandKnown fun other left same => absurd same (level.operand_noSteps other left)
  | last level left => exact leftKnown level left rfl
  | @step level _ _ _ _ _ _ _ _ _ _ _ operandKnown stepsKnown =>
      apply stepsKnown
      rintro _ _ ⟨⟩
      obtain ⟨first, firstKnown⟩ := leftKnown _ _ rfl
      obtain ⟨second, secondKnown⟩ :=
        operandKnown fun other left same => absurd same (level.operand_noSteps other left)
      exact ⟨_, Tree.value_operation.mpr ⟨first, second, firstKnown, secondKnown, rfl⟩⟩

theorem Following.exists_values {arithmetic : Arithmetic N}
    (reads : ∀ number, IsNumber number →
      (arithmetic.reader.read (String.ofList number)).isSome = true)
    {text : List Char} {trees : List Tree} (following : Following text trees) :
    ∃ values, trees.mapM (Tree.value arithmetic) = some values := by
  induction following with
  | none => exact ⟨[], rfl⟩
  | next _ expression _ inductionHypothesis =>
      obtain ⟨value, known⟩ := expression.exists_value reads nofun
      obtain ⟨values, othersKnown⟩ := inductionHypothesis
      exact ⟨value :: values, mapM_value_cons known othersKnown⟩

theorem IsProgram.exists_values {arithmetic : Arithmetic N}
    (reads : ∀ number, IsNumber number →
      (arithmetic.reader.read (String.ofList number)).isSome = true)
    {text : List Char} {trees : List Tree} (isProgram : IsProgram text trees) :
    ∃ values, trees.mapM (Tree.value arithmetic) = some values := by
  cases isProgram with
  | empty => exact ⟨[], rfl⟩
  | expressions _ expression following =>
      obtain ⟨value, known⟩ := expression.exists_value reads nofun
      obtain ⟨values, othersKnown⟩ := following.exists_values reads
      exact ⟨value :: values, mapM_value_cons known othersKnown⟩

/-- The evaluation of a text whose length is a machine word returns. It gives just the values of
the expressions of which the text is a program. When all numbers can be read, it accepts just the
programs. -/
theorem evaluate_accepts_programs (arithmetic : Arithmetic N) {text : String}
    (addressable : (Cursor.ofText text).length < Cursor.indexBound) :
    (evaluate arithmetic text).Returned ∧
      (∀ values, (∃ cursor session, evaluate arithmetic text = .success cursor values session) ↔
        ∃ trees, IsProgram text.toList trees ∧
          trees.mapM (Tree.value arithmetic) = some values) ∧
      ((∀ number, IsNumber number →
          (arithmetic.reader.read (String.ofList number)).isSome = true) →
        ((∃ cursor values session, evaluate arithmetic text = .success cursor values session) ↔
          ∃ trees, IsProgram text.toList trees)) := by
  have accepted (values : List N) :
      (∃ cursor session, evaluate arithmetic text = .success cursor values session) ↔
        ∃ trees, IsProgram text.toList trees ∧
          trees.mapM (Tree.value arithmetic) = some values := by
    rw [evaluate_eq_success_iff]
    constructor
    · rintro ⟨cursor, session, success, isEnd⟩
      exact exists_isProgram_of_readProgram arithmetic addressable success isEnd
    · rintro ⟨trees, isProgram, known⟩
      exact readProgram_of_isProgram arithmetic addressable isProgram known
  refine ⟨evaluate_returned (readProgram_returned arithmetic addressable), accepted, ?_⟩
  intro reads
  constructor
  · rintro ⟨cursor, values, session, success⟩
    obtain ⟨trees, isProgram, _⟩ := (accepted values).mp ⟨cursor, session, success⟩
    exact ⟨trees, isProgram⟩
  · rintro ⟨trees, isProgram⟩
    obtain ⟨values, known⟩ := isProgram.exists_values reads
    obtain ⟨cursor, session, success⟩ := (accepted values).mpr ⟨trees, isProgram, known⟩
    exact ⟨cursor, values, session, success⟩

/-- The sum of two numbers is a program with one expression. -/
theorem isProgram_sum :
    IsProgram "1 + 2".toList [.operation .add (.number "1") (.number "2")] := by
  have space : IsSpace [' '] := by
    intro character member
    rw [List.mem_singleton.mp member]
    rfl
  have noSpace : IsSpace [] := nofun
  have digit (character : Char) (isDigit : isAsciiDigit character = true) :
      IsNumber [character] := .whole ⟨List.cons_ne_nil _ _, by simpa using isDigit⟩
  have one : Derives Level.product.operand (['1'] ++ [' ']) (.number "1") :=
    .number (digit '1' rfl) space
  have two : Derives Level.product.operand (['2'] ++ []) (.number "2") :=
    .number (digit '2' rfl) noSpace
  have left : Derives Level.sum.operand _ (.number "1") := .level one (.last .product _)
  have right : Derives Level.sum.operand _ (.number "2") := .level two (.last .product _)
  have steps : Derives (.steps .sum (.number "1")) _
      (.operation .add (.number "1") (.number "2")) :=
    .step List.mem_cons_self space right (.last .sum _)
  exact .expressions noSpace (.level left steps) .none

theorem evaluate_accepts_sum :
    (Cursor.ofText "1 + 2").length < Cursor.indexBound ∧
      (∀ number, IsNumber number →
        (floatArithmetic.reader.read (String.ofList number)).isSome = true) ∧
      ∃ cursor values session,
        evaluate floatArithmetic "1 + 2" = .success cursor values session := by
  have addressable : (Cursor.ofText "1 + 2").length < Cursor.indexBound := by decide
  have accepted := (evaluate_accepts_programs floatArithmetic addressable).2.2
  have reads (number : List Char) (isNumber : IsNumber number) := isSome_readFloat isNumber
  exact ⟨addressable, reads, (accepted reads).mpr ⟨_, isProgram_sum⟩⟩

end ParserCombinators.Calculator
