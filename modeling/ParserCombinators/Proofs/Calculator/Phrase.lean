/-
This file shows how the phrases of arithmetic programs begin and which characters may follow them.
-/

import ParserCombinators.Proofs.Calculator.Number

namespace ParserCombinators.Calculator

open ParserCombinators.Pattern ParserCombinators.Text

/-- These characters may follow a sum or a product. -/
def Level.ends : Level → List Char
  | .product => ['+', '-', ')', ';']
  | .sum => [')', ';']

/-- The operators of a level may follow its operands. -/
def Phrase.ends : Phrase → List Char
  | .factor => ['*', '/', '+', '-', ')', ';']
  | .level chosen => chosen.ends
  | .steps chosen _ => chosen.ends

/-- The phrase may end before this text. -/
def Phrase.MayEnd (phrase : Phrase) (more : List Char) : Prop :=
  ∀ character ∈ more.head?, character ∈ phrase.ends

/-- What may follow any phrase may follow a factor. -/
theorem Phrase.ends_subset (phrase : Phrase) : phrase.ends ⊆ Phrase.factor.ends := by
  have product : Level.product.ends ⊆ Phrase.factor.ends := fun _ member => .tail _ (.tail _ member)
  have sum : Level.sum.ends ⊆ Phrase.factor.ends := fun _ member =>
    product (.tail _ (.tail _ member))
  rcases phrase with _ | (_ | _) | ⟨_ | _, _⟩
  · exact List.Subset.refl _
  · exact product
  · exact sum
  · exact product
  · exact sum

/-- No phrase ends before white space, a digit or a point. -/
theorem Phrase.not_mem_ends {phrase : Phrase} {character : Char} (ends : character ∈ phrase.ends) :
    isWhiteSpace character = false ∧ isAsciiDigit character = false ∧ character ≠ '.' := by
  have factorEnds : Phrase.factor.ends.all (fun character => !isWhiteSpace character &&
      !isAsciiDigit character && character != '.') = true := rfl
  have allowed := List.all_eq_true.mp factorEnds character (phrase.ends_subset ends)
  simp only [Bool.and_eq_true, Bool.not_eq_true', bne_iff_ne] at allowed
  exact ⟨allowed.1.1, allowed.1.2, allowed.2⟩

theorem not_isWhiteSpace_of_isAsciiDigit {character : Char}
    (digit : isAsciiDigit character = true) : isWhiteSpace character = false := by
  simp only [isAsciiDigit, Char.le_def, UInt32.le_iff_toNat_le, Bool.and_eq_true,
    decide_eq_true_eq] at digit
  have bounds : 48 ≤ character.toNat ∧ character.toNat ≤ 57 := digit
  simp [isWhiteSpace, whiteSpaceRanges, CodeRanges.covers]
  omega

/-- A factor or a level begins with a digit or a parenthesis. -/
theorem Derives.begins {phrase : Phrase} {text : List Char} {tree : Tree}
    (derives : Derives phrase text tree) (noSteps : ∀ level left, phrase ≠ .steps level left) :
    ∃ first rest, text = first :: rest ∧ (isAsciiDigit first = true ∨ first = '(') := by
  induction derives with
  | @number number space isNumber isSpace =>
      obtain ⟨first, rest, same, digit⟩ := isNumber.begins
      exact ⟨first, rest ++ space, by rw [same, List.cons_append], .inl digit⟩
  | parentheses isSpace derives isSpaceAfter => exact ⟨'(', _, rfl, .inr rfl⟩
  | @level level first rest left tree operand steps operandBegins _ =>
      have operandNoSteps : ∀ other left, level.operand ≠ .steps other left := by
        cases level <;> nofun
      obtain ⟨character, others, same, begins⟩ := operandBegins operandNoSteps
      exact ⟨character, others ++ rest, by rw [same, List.cons_append], begins⟩
  | last level left => exact absurd rfl (noSteps level left)
  | step => exact absurd rfl (noSteps _ _)

/-- White space before such a phrase is a longest run. -/
theorem longestRun_before {phrase : Phrase} {space text : List Char} {tree : Tree}
    (isSpace : IsSpace space) (derives : Derives phrase text tree)
    (noSteps : ∀ level left, phrase ≠ .steps level left) (more : List Char) :
    longestRun .whiteSpace (space ++ (text ++ more)) = space := by
  obtain ⟨first, rest, rfl, begins⟩ := derives.begins noSteps
  apply longestRun_append isSpace
  intro character member
  rw [← Option.some.inj member]
  rcases begins with digit | rfl
  · exact not_isWhiteSpace_of_isAsciiDigit digit
  · rfl

/-- White space behind a phrase is a longest run. -/
theorem Phrase.MayEnd.longestRun {phrase : Phrase} {space more : List Char}
    (isSpace : IsSpace space) (mayEnd : phrase.MayEnd more) :
    Pattern.longestRun .whiteSpace (space ++ more) = space := by
  apply longestRun_append isSpace
  intro character member
  exact (Phrase.not_mem_ends (mayEnd character member)).1

/-- A symbol is one character. It may follow the operands of its level but not the level. -/
theorem Level.exists_symbol {level : Level} {operator : Operator}
    (belongs : operator ∈ level.operators) :
    ∃ symbol, operator.symbol.toList = [symbol] ∧ symbol ∈ level.operand.ends ∧
      symbol ∉ level.ends := by
  cases level with
  | product =>
      simp only [Level.operators, List.mem_cons, List.not_mem_nil, or_false] at belongs
      rcases belongs with rfl | rfl
      · exact ⟨'*', rfl, by decide, by decide⟩
      · exact ⟨'/', rfl, by decide, by decide⟩
  | sum =>
      simp only [Level.operators, List.mem_cons, List.not_mem_nil, or_false] at belongs
      rcases belongs with rfl | rfl
      · exact ⟨'+', rfl, by decide, by decide⟩
      · exact ⟨'-', rfl, by decide, by decide⟩

/-- An operand may end before the steps that follow it. Without steps it depends on what is behind
the level. -/
theorem Derives.operand_mayEnd {level : Level} {left tree : Tree} {rest more : List Char}
    (derives : Derives (.steps level left) rest tree)
    (mayEnd : rest = [] → (Phrase.level level).MayEnd more) :
    level.operand.MayEnd (rest ++ more) := by
  intro character member
  cases derives with
  | last =>
      have ends := mayEnd rfl character member
      cases level with
      | product => exact .tail _ (.tail _ ends)
      | sum => exact .tail _ (.tail _ ends)
  | @step _ _ _ _ operator space text rest belongs isSpace operand steps =>
      obtain ⟨symbol, written, ends, _⟩ := Level.exists_symbol belongs
      rw [written] at member
      rw [← Option.some.inj member]
      exact ends

section

variable {N : Type} {arithmetic : Arithmetic N}

theorem Tree.value_operation {operator : Operator} {left right : Tree} {value : N} :
    (Tree.operation operator left right).value arithmetic = some value ↔
      ∃ first second, left.value arithmetic = some first ∧ right.value arithmetic = some second ∧
        arithmetic.apply operator first second = value := by
  simp [Tree.value, Option.bind_eq_some_iff]

/-- When the tree of a level has a value, so does the operand on the left. -/
theorem Derives.exists_left_value {level : Level} {left tree : Tree} {text : List Char}
    (derives : Derives (.steps level left) text tree) {value : N}
    (same : tree.value arithmetic = some value) : ∃ first, left.value arithmetic = some first := by
  generalize isSteps : Phrase.steps level left = phrase at derives
  induction derives generalizing left with
  | number => cases isSteps
  | parentheses => cases isSteps
  | level => cases isSteps
  | last =>
      cases isSteps
      exact ⟨value, same⟩
  | step belongs isSpace operand steps _ stepsHypothesis =>
      cases isSteps
      obtain ⟨whole, known⟩ := stepsHypothesis same rfl
      obtain ⟨first, second, known, _⟩ := Tree.value_operation.mp known
      exact ⟨first, known⟩

end

end ParserCombinators.Calculator
