/-
This file describes patterns that see only what follows. They match the same wherever their text
stands.
-/

import ParserCombinators.Proofs.Pattern.Match

namespace ParserCombinators.Pattern

/-- The same match in a text that begins earlier. -/
def Span.shift (distance : Nat) (span : Span) : Span :=
  ⟨distance + span.start, distance + span.stop⟩

/-- What stands before a text only moves the match at the beginning of the text. -/
def LooksAhead (pattern : Pattern) : Prop :=
  ∀ before after : List Char,
    pattern.matchFrom (before ++ after) (Medium.measure .text before) =
      (pattern.matchFrom after 0).map (Span.shift (Medium.measure .text before))

/-- Such an assertion is only about the characters behind the place. -/
def Assertion.looksAhead : Assertion → Bool
  | .textStart => false
  | .textEnd => true
  | .lineStart => false
  | .lineEnd => true
  | .anyLineStart => false
  | .anyLineEnd => false
  | .wordBoundary => false
  | .noWordBoundary => false
  | .wordStart => false
  | .wordEnd => false
  | .noWordBefore => false
  | .noWordBehind => true

/-- All assertions in the expression look ahead. -/
def Expression.looksAhead : Expression → Bool
  | .empty => true
  | .text _ => true
  | .one _ => true
  | .assertion condition => condition.looksAhead
  | .group _ inner => inner.looksAhead
  | .append first second => first.looksAhead && second.looksAhead
  | .either preferred other => preferred.looksAhead && other.looksAhead
  | .repetition _ _ _ repeated => repeated.looksAhead

def Instruction.looksAhead : Instruction → Bool
  | .accept => true
  | .read _ _ => true
  | .check condition _ => condition.looksAhead
  | .branch _ _ => true

theorem Assertion.holds_eq_of_looksAhead {condition : Assertion}
    (ahead : condition.looksAhead = true) {place place' : Place} (same : place.rest = place'.rest) :
    condition.holds place = condition.holds place' := by
  cases condition with
  | textEnd => simp [holds, same]
  | lineEnd => simp [holds, same]
  | noWordBehind => simp [holds, same]
  | textStart | lineStart | anyLineStart | anyLineEnd | wordBoundary | noWordBoundary | wordStart
  | wordEnd | noWordBefore => cases ahead

namespace Program

/-- All checks of the program look ahead. -/
def LooksAhead (program : Program) : Prop :=
  ∀ instruction ∈ program.code, instruction.looksAhead = true

section

variable {program : Program}

theorem LooksAhead.enter (ahead : program.LooksAhead) {instruction : Instruction}
    (instructionAhead : instruction.looksAhead = true) :
    (program.enter instruction).LooksAhead := by
  intro other member
  rcases Array.mem_push.mp member with old | same
  · exact ahead other old
  · rw [same]
    exact instructionAhead

theorem LooksAhead.branchTo (ahead : program.LooksAhead) (greedy : Bool) (other : Nat) :
    (program.branchTo greedy other).LooksAhead := by
  apply ahead.enter
  cases greedy with
  | false => rfl
  | true => rfl

theorem LooksAhead.loop {body : Program → Program}
    (bodyAhead : ∀ program : Program, program.LooksAhead → (body program).LooksAhead)
    (ahead : program.LooksAhead) (greedy : Bool) : (loop greedy body program).LooksAhead := by
  have entered : (program.enter .accept).LooksAhead := ahead.enter rfl
  intro instruction member
  rcases Array.mem_or_eq_of_mem_setIfInBounds member with old | same
  · exact bodyAhead _ entered instruction old
  · rw [same]
    cases greedy with
    | false => rfl
    | true => rfl

theorem LooksAhead.repeat {body : Program → Program}
    (bodyAhead : ∀ program : Program, program.LooksAhead → (body program).LooksAhead)
    (count : Nat) (ahead : program.LooksAhead) : (Nat.repeat body count program).LooksAhead := by
  induction count with
  | zero => exact ahead
  | succ count inductionHypothesis => exact bodyAhead _ inductionHypothesis

/-- An expression that looks ahead adds only instructions that do. -/
theorem LooksAhead.before {expression : Expression} (expressionAhead : expression.looksAhead = true)
    (ahead : program.LooksAhead) : (Program.before expression program).LooksAhead := by
  induction expression generalizing program with
  | empty => exact ahead
  | text characters =>
      clear expressionAhead
      induction characters with
      | nil => exact ahead
      | cons character characters inductionHypothesis => exact inductionHypothesis.enter rfl
  | one characters => exact ahead.enter rfl
  | assertion condition => exact ahead.enter expressionAhead
  | group number inner innerAhead => exact innerAhead expressionAhead ahead
  | append first second firstAhead secondAhead =>
      have both := Bool.and_eq_true_iff.mp expressionAhead
      exact firstAhead both.1 (secondAhead both.2 ahead)
  | either preferred other preferredAhead otherAhead =>
      have both := Bool.and_eq_true_iff.mp expressionAhead
      have right := otherAhead both.2 ahead
      have left : (Program.before preferred
          ⟨(Program.before other program).code, program.entry⟩).LooksAhead :=
        preferredAhead both.1 right
      exact left.enter rfl
  | repetition low high greedy repeated repeatedAhead =>
      have body (other : Program) (otherAhead : other.LooksAhead) :
          (Program.before repeated other).LooksAhead := repeatedAhead expressionAhead otherAhead
      have looped := LooksAhead.loop body ahead greedy
      have optional (count : Nat) := LooksAhead.repeat (fun other otherAhead =>
        (body other otherAhead).branchTo greedy program.entry) count ahead
      apply LooksAhead.repeat body
      cases high with
      | some high => cases low <;> exact optional _
      | none =>
          cases low with
          | zero =>
              simp only
              split
              · exact looped
              · exact looped.branchTo greedy _
          | succ low => exact looped

end

section

variable {program : Program} {place place' : Place}

/-- The steps without reading depend only on the characters behind the place. -/
theorem LooksAhead.settle_eq (ahead : program.LooksAhead) (same : place.rest = place'.rest)
    (fuel : Nat) (threads : List Nat) (seen : Array Bool) (waiting : List (CharacterClass × Nat)) :
    program.settle place fuel threads seen waiting =
      program.settle place' fuel threads seen waiting := by
  induction fuel generalizing threads seen waiting with
  | zero => rfl
  | succ fuel inductionHypothesis =>
      cases threads with
      | nil => rfl
      | cons address pending =>
          have instructionAhead : (program.code.getD address .accept).looksAhead = true := by
            rw [Array.getD_eq_getD_getElem?]
            cases found : program.code[address]? with
            | none => rfl
            | some instruction => exact ahead instruction (Array.mem_of_getElem? found)
          simp only [settle]
          generalize program.code.getD address .accept = instruction at instructionAhead
          cases instruction with
          | accept => simp only [inductionHypothesis]
          | read characters next => simp only [inductionHypothesis]
          | branch preferred other => simp only [inductionHypothesis]
          | check condition next =>
              have holds := Assertion.holds_eq_of_looksAhead instructionAhead same
              simp only [inductionHypothesis, holds]

theorem LooksAhead.front_eq (ahead : program.LooksAhead) (previous previous' : Option Char)
    (rest : List Char) (offset offset' : Nat) (threads : List Nat) :
    program.front ⟨previous, rest, offset⟩ threads =
      program.front ⟨previous', rest, offset'⟩ threads := by
  have same : (⟨previous, rest, offset⟩ : Place).rest =
      (⟨previous', rest, offset'⟩ : Place).rest := rfl
  exact ahead.settle_eq same _ _ _ _

/-- A match moves with its text. -/
theorem LooksAhead.advance_eq (ahead : program.LooksAhead) (previous previous' : Option Char)
    (distance offset : Nat) (threads : List Nat) (best : Option Nat) (rest : List Char) :
    program.advance previous (distance + offset) threads (best.map (distance + ·)) rest =
      (program.advance previous' offset threads best rest).map (distance + ·) := by
  induction rest generalizing previous previous' offset threads best with
  | nil =>
      have fronts := ahead.front_eq previous previous' [] (distance + offset) offset threads
      simp only [advance, fronts]
      split
      · rfl
      · rfl
  | cons character rest inductionHypothesis =>
      have fronts := ahead.front_eq previous previous' (character :: rest) (distance + offset)
        offset threads
      have chosen (accepted : Bool) :
          (if accepted then some (distance + offset) else best.map (distance + ·)) =
            (if accepted then some offset else best).map (distance + ·) := by
        cases accepted with
        | false => rfl
        | true => rfl
      simp only [advance, fronts, chosen]
      split
      · rfl
      · rw [Nat.add_assoc]
        exact inductionHypothesis _ _ _ _ _

end

end Program

/-- A pattern looks ahead when all assertions in its expression do. -/
theorem looksAhead_ofExpression (source : String) {expression : Expression}
    (expressionAhead : expression.looksAhead = true) :
    (ofExpression source expression).LooksAhead := by
  have accepting : Program.accepting.LooksAhead := by
    intro instruction member
    rw [List.mem_singleton.mp (Array.mem_toList_iff.mpr member)]
    rfl
  have ahead : (Program.ofExpression expression).LooksAhead := accepting.before expressionAhead
  intro before after
  have advanced := ahead.advance_eq before.getLast? none (Medium.measure .text before) 0
    [(Program.ofExpression expression).entry] none after
  have behind := (Program.ofExpression expression).filter_find_append before after
  have here := (Program.ofExpression expression).filter_find_append [] after
  simp only [List.nil_append, List.getLast?_nil, Medium.measure] at here
  simp only [matchFrom, ofExpression, ofProgram, behind, here, Program.matchEnd]
  simp only [Option.map_none, Nat.add_zero] at advanced
  rw [advanced, Option.map_map, Option.map_map]
  rfl

theorem looksAhead_whiteSpace : whiteSpace.LooksAhead := looksAhead_ofExpression _ rfl

end ParserCombinators.Pattern
