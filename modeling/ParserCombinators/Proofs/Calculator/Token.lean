/-
This file says what the tokens of arithmetic programs read. Each token takes all white space behind
it.
-/

import ParserCombinators.Proofs.Calculator.Phrase
import ParserCombinators.Proofs.Rules

namespace ParserCombinators.Calculator

open ParserCombinators.Parser ParserCombinators.Pattern ParserCombinators.Text

variable {N A : Type}
  {call : (rule : Rule) → Behaviour .text Unit ((signature N).result rule)} {fuel : Nat}
  {cursor : Cursor .text}

theorem ensures_literal (ready : cursor.Ready) (expected : String) :
    ((literal expected : Parser (signature N) String).behaviour call fuel).Ensures cursor
      (fun next value => value = expected ∧ ∃ text, cursor.rest = expected.toList ++ text ∧
        next = cursor.past expected.toList)
      (¬ expected.toList <+: cursor.rest) :=
  .literal ready.toValid expected

/-- The longest run of white space is skipped, if there is any. -/
theorem ensures_whiteSpace (ready : cursor.Ready) :
    ((Parser.optional whiteSpace : Parser (signature N) (Option String)).behaviour call
      fuel).Ensures cursor
        (fun next _ => next = cursor.past (longestRun .whiteSpace cursor.rest)) False := by
  cases found : someRun .whiteSpace cursor.rest with
  | none =>
      have nothing : longestRun .whiteSpace cursor.rest = [] := by
        rw [someRun] at found
        split at found
        next none => exact none
        next => cases found
      obtain ⟨reason, read⟩ := finds_whiteSpace.read_of_none ready found
      have refused : (Behaviour.leaf (.pattern .whiteSpace) : Behaviour .text Unit String).Ensures
          cursor (fun next _ => next = cursor.past (longestRun .whiteSpace cursor.rest)) True :=
        .leaf_of_failure read trivial
      refine refused.optional fun _ => ?_
      rw [nothing, Cursor.past_nil]
  | some run =>
      have same : longestRun .whiteSpace cursor.rest = run := by
        rw [someRun] at found
        split at found
        next => cases found
        next => exact Option.some.inj found
      have skipped : (Behaviour.leaf (.pattern .whiteSpace) : Behaviour .text Unit String).Ensures
          cursor (fun next _ => next = cursor.past (longestRun .whiteSpace cursor.rest)) False := by
        apply Behaviour.Ensures.leaf_of_success (finds_whiteSpace.read_of_some ready found)
        rw [same]
      exact skipped.optional False.elim

/-- A token takes the white space behind it. -/
theorem ensures_token {parser : Parser (signature N) A} {parsed : Cursor .text → A → Prop}
    {failed : Prop} (ensures : (parser.behaviour call fuel).Ensures cursor parsed failed)
    (ready : ∀ next value, parsed next value → next.Ready) :
    ((token parser).behaviour call fuel).Ensures cursor
      (fun last value => ∃ next, parsed next value ∧
        last = next.past (longestRun .whiteSpace next.rest)) failed := by
  apply Behaviour.Ensures.map
  apply Parser.ensures_pair ensures
  intro next value holds
  refine (ensures_whiteSpace (ready next value holds)).imp ?_ False.elim
  rintro last _ same
  exact ⟨next, holds, same⟩

/-- A symbol is read with the white space behind it. -/
theorem ensures_symbol (ready : cursor.Ready) (symbol : String) :
    ((token (literal symbol) : Parser (signature N) String).behaviour call fuel).Ensures cursor
      (fun next _ => ∃ text, cursor.rest = symbol.toList ++ text ∧
        next = cursor.past (symbol.toList ++ longestRun .whiteSpace text))
      (¬ symbol.toList <+: cursor.rest) := by
  refine (ensures_token (ensures_literal ready symbol) ?_).imp ?_ id
  · rintro next value ⟨_, text, unread, rfl⟩
    exact ready.past unread
  · rintro last value ⟨next, ⟨rfl, text, unread, rfl⟩, rfl⟩
    rw [Cursor.rest_past unread, Cursor.past_past]
    exact ⟨text, unread, rfl⟩

/-- A symbol is read with the white space that is known to be behind it. -/
theorem ensures_symbol_of_rest (ready : cursor.Ready) {symbol : String} {space more : List Char}
    (unread : cursor.rest = symbol.toList ++ (space ++ more))
    (skipped : longestRun .whiteSpace (space ++ more) = space) :
    ((token (literal symbol) : Parser (signature N) String).behaviour call fuel).Ensures cursor
      (fun next _ => next = cursor.past (symbol.toList ++ space)) False := by
  refine (ensures_symbol ready symbol).imp ?_ ?_
  · rintro next _ ⟨text, behind, rfl⟩
    have same := List.append_cancel_left (behind.symm.trans unread)
    rw [same, skipped]
  · intro refused
    exact refused ⟨_, unread.symm⟩

theorem Operator.read_symbol (operator : Operator) :
    Operator.read operator.symbol = some operator := by
  cases operator <;> rfl

/-- One of the two symbols is read. -/
theorem ensures_symbols (ready : cursor.Ready) (first second : Operator) :
    ((choiceOf [literal first.symbol, literal second.symbol] :
      Parser (signature N) String).behaviour call fuel).Ensures cursor
        (fun next text => ∃ found ∈ [first, second], text = found.symbol ∧ ∃ rest,
          cursor.rest = found.symbol.toList ++ rest ∧ next = cursor.past found.symbol.toList)
        (∀ found ∈ [first, second], ¬ found.symbol.toList <+: cursor.rest) := by
  have written (found : Operator) (member : found ∈ [first, second]) :
      ((literal found.symbol : Parser (signature N) String).behaviour call fuel).Ensures cursor
        (fun next text => ∃ found ∈ [first, second], text = found.symbol ∧ ∃ rest,
          cursor.rest = found.symbol.toList ++ rest ∧ next = cursor.past found.symbol.toList)
        (¬ found.symbol.toList <+: cursor.rest) := by
    refine (ensures_literal ready found.symbol).imp ?_ id
    rintro next text ⟨rfl, rest, unread, rfl⟩
    exact ⟨found, member, rfl, rest, unread, rfl⟩
  apply Parser.ensures_choiceOf_two (written first (by simp))
  intro notFirst
  refine (written second (by simp)).imp (fun _ _ => id) fun notSecond => ?_
  simp [notFirst, notSecond]

/-- The parser of a level reads the operators of the level. -/
theorem ensures_operator (ready : cursor.Ready) {level : Level} {first second : Operator}
    (operators : level.operators = [first, second]) :
    ((operator first second : Parser (signature N) Operator).behaviour call fuel).Ensures cursor
      (fun next found => found ∈ level.operators ∧ ∃ text,
        cursor.rest = found.symbol.toList ++ text ∧
          next = cursor.past (found.symbol.toList ++ longestRun .whiteSpace text))
      (∀ found ∈ level.operators, ¬ found.symbol.toList <+: cursor.rest) := by
  rw [operators]
  have read : ((Parser.parseAs Operator.reader (choiceOf [literal first.symbol,
      literal second.symbol]) : Parser (signature N) Operator).behaviour call fuel).Ensures cursor
        (fun next found => found ∈ [first, second] ∧ ∃ rest,
          cursor.rest = found.symbol.toList ++ rest ∧ next = cursor.past found.symbol.toList)
        (∀ found ∈ [first, second], ¬ found.symbol.toList <+: cursor.rest) := by
    apply (ensures_symbols ready first second).parseAs
    · rintro next text value ⟨found, member, rfl, rest, unread, rfl⟩ same
      have same : Operator.read found.symbol = some value := same
      rw [Operator.read_symbol, Option.some.injEq] at same
      subst same
      exact ⟨member, rest, unread, rfl⟩
    · rintro next text ⟨found, member, rfl, rest, unread, rfl⟩ refused
      have refused : Operator.read found.symbol = none := refused
      rw [Operator.read_symbol] at refused
      cases refused
  refine (ensures_token read ?_).imp ?_ id
  · rintro next value ⟨_, rest, unread, rfl⟩
    exact ready.past unread
  · rintro last found ⟨next, ⟨member, rest, unread, rfl⟩, rfl⟩
    rw [Cursor.rest_past unread, Cursor.past_past]
    exact ⟨member, rest, unread, rfl⟩

/-- The longest number is found. -/
theorem ensures_numberPattern (ready : cursor.Ready) :
    (Behaviour.leaf (.pattern numberPattern) : Behaviour .text Unit String).Ensures cursor
      (fun next written => ∃ digits text, someNumber cursor.rest = some digits ∧
        cursor.rest = digits ++ text ∧ written = String.ofList digits ∧ next = cursor.past digits)
      (someNumber cursor.rest = none) := by
  cases same : someNumber cursor.rest with
  | none =>
      obtain ⟨reason, read⟩ := finds_number.read_of_none ready same
      exact .leaf_of_failure read rfl
  | some digits =>
      obtain ⟨text, unread⟩ := finds_number.begins same
      exact .leaf_of_success (finds_number.read_of_some ready same)
        ⟨digits, text, rfl, unread.symm, rfl, rfl⟩

/-- The longest number is read, and its text has a value. -/
theorem ensures_number (ready : cursor.Ready) (arithmetic : Arithmetic N) :
    ((number arithmetic).behaviour call fuel).Ensures cursor
      (fun next value => ∃ digits text, someNumber cursor.rest = some digits ∧
        cursor.rest = digits ++ text ∧
          arithmetic.reader.read (String.ofList digits) = some value ∧
            next = cursor.past (digits ++ longestRun .whiteSpace text))
      (∀ digits, someNumber cursor.rest = some digits →
        arithmetic.reader.read (String.ofList digits) = none) := by
  have read : ((parseAs arithmetic.reader (leaf (.pattern numberPattern)) :
      Parser (signature N) N).behaviour call fuel).Ensures cursor
      (fun next value => ∃ digits text, someNumber cursor.rest = some digits ∧
        cursor.rest = digits ++ text ∧
          arithmetic.reader.read (String.ofList digits) = some value ∧ next = cursor.past digits)
      (∀ digits, someNumber cursor.rest = some digits →
        arithmetic.reader.read (String.ofList digits) = none) := by
    refine ((ensures_numberPattern ready).imp (fun _ _ => id) ?_).parseAs ?_ ?_
    · intro nothing digits same
      rw [nothing] at same
      cases same
    · rintro next written value ⟨digits, text, same, unread, rfl, rfl⟩ accepted
      exact ⟨digits, text, same, unread, accepted, rfl⟩
    · rintro next written ⟨digits, text, same, unread, rfl, rfl⟩ refused other otherSame
      rw [same, Option.some.injEq] at otherSame
      rw [← otherSame]
      exact refused
  refine (ensures_token read ?_).imp ?_ id
  · rintro next value ⟨digits, text, _, unread, _, rfl⟩
    exact ready.past unread
  · rintro last value ⟨next, ⟨digits, text, same, unread, accepted, rfl⟩, rfl⟩
    rw [Cursor.rest_past unread, Cursor.past_past]
    exact ⟨digits, text, same, unread, accepted, rfl⟩

end ParserCombinators.Calculator
