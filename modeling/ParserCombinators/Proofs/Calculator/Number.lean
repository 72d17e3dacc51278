/-
This file shows that the pattern of numbers finds the longest number at the beginning of a text, and
that floating point numbers are read from all of them.
-/

import ParserCombinators.Proofs.Calculator.Syntax
import ParserCombinators.Proofs.Pattern.Run

namespace ParserCombinators.Calculator

open ParserCombinators.Pattern ParserCombinators.Text

theorem contains_single (member character : Char) :
    (CharacterClass.single member).contains character = true ↔ character = member := by
  rw [CharacterClass.single, CharacterClass.contains_range]
  constructor
  · rintro ⟨low, high⟩
    exact Char.le_antisymm high low
  · rintro rfl
    exact ⟨Char.le_refl _, Char.le_refl _⟩

/-- A fraction is a point with digits behind it. Without digits there is none. -/
def longestFraction : List Char → List Char
  | '.' :: rest =>
      if longestRun .asciiDigit rest = [] then [] else '.' :: longestRun .asciiDigit rest
  | _ => []

/-- The longest number at the beginning of a text. -/
def longestNumber (text : List Char) : List Char :=
  longestRun .asciiDigit text ++ longestFraction (afterRun .asciiDigit text)

theorem longestFraction_eq (text : List Char) :
    longestFraction text = [] ∨ ∃ rest, text = '.' :: rest ∧ longestRun .asciiDigit rest ≠ [] ∧
      longestFraction text = '.' :: longestRun .asciiDigit rest := by
  rw [longestFraction.eq_def]
  split
  next rest =>
    split
    next => exact .inl rfl
    next some => exact .inr ⟨rest, rfl, some, rfl⟩
  next => exact .inl rfl

/-- A digit before a number belongs to it. -/
theorem longestNumber_cons {character : Char}
    (digit : CharacterClass.asciiDigit.contains character = true) (text : List Char) :
    longestNumber (character :: text) = character :: longestNumber text := by
  simp [longestNumber, longestRun, afterRun, digit]

/-- A number begins with a digit. -/
def someNumber (text : List Char) : Option (List Char) :=
  if longestRun .asciiDigit text = [] then none else some (longestNumber text)

/-- The program of the number pattern. -/
def numberProgram : Program := .ofExpression numberExpression

/-- At this address the digits before the point are read. -/
def wholeStart : Nat := numberProgram.entry

/-- At this address there are digits, and more of them or a point may follow. -/
def wholeAgain : Nat := 5

/-- At this address the point has been read. -/
def fractionStart : Nat := 2

theorem front_wholeStart (place : Place) :
    numberProgram.front place [wholeStart] = ⟨[(.asciiDigit, wholeAgain)], false⟩ := rfl

theorem front_wholeAgain (place : Place) :
    numberProgram.front place [wholeAgain] =
      ⟨[(.asciiDigit, wholeAgain), (.single '.', fractionStart)], true⟩ := rfl

theorem fraction_repeats : numberProgram.Repeats .asciiDigit fractionStart 1 where
  begins _ := rfl
  continues _ := rfl

/-- Behind a digit a point may begin the fraction. -/
theorem advance_wholeAgain_point (previous : Option Char) (offset : Nat) (best : Option Nat)
    (rest : List Char) :
    numberProgram.advance previous offset [wholeAgain] best ('.' :: rest) =
      some (offset + Medium.measure .text (longestNumber ('.' :: rest))) := by
  have noDigits : longestRun .asciiDigit ('.' :: rest) = [] := by
    simp [longestRun, CharacterClass.contains_asciiDigit, isAsciiDigit]
  have left : afterRun .asciiDigit ('.' :: rest) = '.' :: rest := by
    simp [afterRun, CharacterClass.contains_asciiDigit, isAsciiDigit]
  have read : (numberProgram.front ⟨previous, '.' :: rest, offset⟩
      [wholeAgain]).afterReading '.' = [fractionStart] := by
    rw [front_wholeAgain]
    rfl
  have fraction := fraction_repeats.advance_start (some '.') (offset + 1) (some offset) rest
  simp only [Program.advance, read]
  rw [front_wholeAgain, longestNumber, noDigits, left, longestFraction]
  refine fraction.trans ?_
  split
  next => rfl
  next =>
    simp only [List.nil_append, Medium.measure, Medium.width]
    exact congrArg some (Nat.add_assoc _ _ _)

/-- Behind a digit the match goes on to the end of the digits and of the fraction. -/
theorem advance_wholeAgain (previous : Option Char) (offset : Nat) (best : Option Nat)
    (rest : List Char) :
    numberProgram.advance previous offset [wholeAgain] best rest =
      some (offset + Medium.measure .text (longestNumber rest)) := by
  induction rest generalizing previous offset best with
  | nil =>
      simp [Program.advance, front_wholeAgain, longestNumber, longestRun, longestFraction, afterRun,
        Medium.measure]
  | cons character rest inductionHypothesis =>
      by_cases point : character = '.'
      · rw [point]
        exact advance_wholeAgain_point previous offset best rest
      · have noPoint : (CharacterClass.single '.').contains character = false := by
          rw [Bool.eq_false_iff, Ne, contains_single]
          exact point
        cases digit : CharacterClass.asciiDigit.contains character with
        | true =>
            rw [longestNumber_cons digit]
            simp [Program.advance, front_wholeAgain, Front.afterReading, digit, noPoint,
              inductionHypothesis, Medium.measure, Medium.width, Nat.add_assoc]
        | false =>
            have noNumber : longestNumber (character :: rest) = [] := by
              simp [longestNumber, longestRun, afterRun, digit, longestFraction, point]
            simp [Program.advance, front_wholeAgain, Front.afterReading, digit, noPoint, noNumber,
              Medium.measure]

theorem longestNumber_begins (text : List Char) : longestNumber text <+: text := by
  have whole := longestRun_append_afterRun .asciiDigit text
  rw [longestNumber]
  rcases longestFraction_eq (afterRun .asciiDigit text) with none | ⟨rest, left, _, fraction⟩
  · rw [none, List.append_nil]
    exact ⟨_, whole⟩
  · have behind := longestRun_append_afterRun .asciiDigit rest
    rw [fraction]
    refine ⟨afterRun .asciiDigit rest, ?_⟩
    rw [List.append_assoc, List.cons_append, behind, ← left, whole]

/-- The pattern finds the longest number. -/
theorem finds_number : numberPattern.Finds someNumber := by
  apply finds_ofProgram
  · intro text found same
    rw [someNumber] at same
    split at same
    next => simp at same
    next =>
      rw [← Option.some.inj same]
      exact longestNumber_begins text
  · intro place
    obtain ⟨previous, rest, offset⟩ := place
    show numberProgram.advance previous offset [wholeStart] none rest = _
    cases rest with
    | nil => simp [Program.advance, front_wholeStart, someNumber, longestRun]
    | cons character rest =>
        cases digit : CharacterClass.asciiDigit.contains character with
        | true =>
            have later :=
              advance_wholeAgain (some character) (offset + character.utf8Size) none rest
            rw [someNumber, longestRun_cons digit, longestNumber_cons digit]
            simp [Program.advance, front_wholeStart, Front.afterReading, digit, later,
              Medium.measure, Medium.width, Nat.add_assoc]
        | false =>
            rw [someNumber, longestRun_cons_eq_nil digit]
            simp [Program.advance, front_wholeStart, Front.afterReading, digit]

theorem isDigits_longestRun {text : List Char} (some : longestRun .asciiDigit text ≠ []) :
    IsDigits (longestRun .asciiDigit text) := by
  refine ⟨some, fun character member => ?_⟩
  rw [← CharacterClass.contains_asciiDigit]
  exact contains_of_mem_longestRun member

/-- A number begins with a digit. -/
theorem IsNumber.begins {number : List Char} (isNumber : IsNumber number) :
    ∃ first rest, number = first :: rest ∧ isAsciiDigit first = true := by
  have ofDigits {digits : List Char} (isDigits : IsDigits digits) (more : List Char) :
      ∃ first rest, digits ++ more = first :: rest ∧ isAsciiDigit first = true := by
    obtain ⟨first, rest, same⟩ := List.exists_cons_of_ne_nil isDigits.1
    refine ⟨first, rest ++ more, by rw [same, List.cons_append], isDigits.2 first ?_⟩
    rw [same]
    exact List.mem_cons_self
  cases isNumber with
  | whole isDigits => simpa using ofDigits isDigits []
  | decimal isDigits _ => exact ofDigits isDigits _

/-- What the pattern finds is a number. -/
theorem isNumber_of_someNumber {text found : List Char} (same : someNumber text = some found) :
    IsNumber found := by
  rw [someNumber] at same
  split at same
  next => simp at same
  next someDigits =>
    have digits := isDigits_longestRun someDigits
    rw [← Option.some.inj same, longestNumber]
    rcases longestFraction_eq (afterRun .asciiDigit text) with none | ⟨rest, _, behind, fraction⟩
    · rw [none, List.append_nil]
      exact .whole digits
    · rw [fraction]
      exact .decimal digits (isDigits_longestRun behind)

theorem someNumber_ne_some_nil (text : List Char) : someNumber text ≠ some [] := by
  intro same
  obtain ⟨first, rest, impossible, _⟩ := (isNumber_of_someNumber same).begins
  cases impossible

theorem IsDigits.contains {digits : List Char} (isDigits : IsDigits digits) :
    ∀ character ∈ digits, CharacterClass.asciiDigit.contains character = true := by
  intro character member
  rw [CharacterClass.contains_asciiDigit]
  exact isDigits.2 character member

/-- Behind its first digits a number may have more digits and a fraction. -/
theorem someNumber_whole_append {digits : List Char} (isDigits : IsDigits digits)
    (more : List Char) : someNumber (digits ++ more) =
      some (digits ++ (longestRun .asciiDigit more ++
        longestFraction (afterRun .asciiDigit more))) := by
  simp [someNumber, longestNumber, longestRun_run_append isDigits.contains,
    afterRun_run_append isDigits.contains, isDigits.1]

/-- Behind a fraction a number may only have more digits. -/
theorem someNumber_decimal_append {digits fraction : List Char} (isDigits : IsDigits digits)
    (isFraction : IsDigits fraction) (more : List Char) :
    someNumber ((digits ++ '.' :: fraction) ++ more) =
      some ((digits ++ '.' :: fraction) ++ longestRun .asciiDigit more) := by
  have noRun : longestRun .asciiDigit ('.' :: (fraction ++ more)) = [] :=
    longestRun_cons_eq_nil (by decide) _
  have behind : afterRun .asciiDigit ('.' :: (fraction ++ more)) = '.' :: (fraction ++ more) :=
    afterRun_eq_self (by rintro _ ⟨⟩; decide)
  have point : longestFraction ('.' :: (fraction ++ more)) =
      '.' :: (fraction ++ longestRun .asciiDigit more) := by
    simp [longestFraction, longestRun_run_append isFraction.contains, isFraction.1]
  rw [List.append_assoc, List.cons_append, someNumber_whole_append isDigits, noRun, behind, point]
  simp

/-- A number at the beginning of a text is part of the longest one. -/
theorem exists_someNumber_append {number : List Char} (isNumber : IsNumber number)
    (more : List Char) : ∃ others, someNumber (number ++ more) = some (number ++ others) := by
  cases isNumber with
  | whole isDigits => exact ⟨_, someNumber_whole_append isDigits more⟩
  | decimal isDigits isFraction => exact ⟨_, someNumber_decimal_append isDigits isFraction more⟩

/-- A number is found as a whole when neither a digit nor a point follows it. -/
theorem someNumber_append {number more : List Char} (isNumber : IsNumber number)
    (stops : ∀ character ∈ more.head?, isAsciiDigit character = false ∧ character ≠ '.') :
    someNumber (number ++ more) = some number := by
  have noDigit : ∀ character ∈ more.head?,
      CharacterClass.asciiDigit.contains character = false := by
    intro character member
    rw [CharacterClass.contains_asciiDigit]
    exact (stops character member).1
  have noRun : longestRun .asciiDigit more = [] := longestRun_eq_nil noDigit
  cases isNumber with
  | whole isDigits =>
      have noFraction : longestFraction more = [] := by
        rcases longestFraction_eq more with none | ⟨rest, same, _⟩
        · exact none
        · exact absurd rfl (stops '.' (by rw [same]; rfl)).2
      rw [someNumber_whole_append isDigits, noRun, afterRun_eq_self noDigit, noFraction]
      simp
  | decimal isDigits isFraction =>
      rw [someNumber_decimal_append isDigits isFraction, noRun, List.append_nil]

/-- Every number is a decimal without an exponent. -/
theorem isSome_readDecimal {number : List Char} (isNumber : IsNumber number) :
    (Reader.Decimal.read number).isSome = true := by
  have takeAll {digits : List Char} (isDigits : IsDigits digits) :
      digits.takeWhile isAsciiDigit = digits := by
    have whole : (digits ++ []).takeWhile isAsciiDigit = digits ++ [].takeWhile isAsciiDigit :=
      List.takeWhile_append_of_pos isDigits.2
    simpa using whole
  have dropAll {digits : List Char} (isDigits : IsDigits digits) :
      digits.dropWhile isAsciiDigit = [] := by
    have whole : (digits ++ []).dropWhile isAsciiDigit = [].dropWhile isAsciiDigit :=
      List.dropWhile_append_of_pos isDigits.2
    simpa using whole
  cases isNumber with
  | whole isDigits =>
      simp [Reader.Decimal.read, takeAll isDigits, dropAll isDigits, isDigits.1]
  | @decimal digits fraction isDigits isFraction =>
      have run : (digits ++ '.' :: fraction).takeWhile isAsciiDigit = digits := by
        rw [List.takeWhile_append_of_pos isDigits.2]
        simp [isAsciiDigit]
      have behind : (digits ++ '.' :: fraction).dropWhile isAsciiDigit = '.' :: fraction := by
        rw [List.dropWhile_append_of_pos isDigits.2]
        simp [isAsciiDigit]
      simp [Reader.Decimal.read, run, behind, dropAll isFraction, isDigits.1]

/-- Floating point numbers are read from every number. -/
theorem isSome_readFloat {number : List Char} (isNumber : IsNumber number) :
    (floatArithmetic.reader.read (String.ofList number)).isSome = true := by
  have magnitude : (Reader.readMagnitude number).isSome = true := by
    rw [Reader.readMagnitude]
    split
    · rfl
    · split
      · rfl
      · simpa using isSome_readDecimal isNumber
  obtain ⟨first, rest, same, digit⟩ := isNumber.begins
  show (Reader.readFloat (String.ofList number)).isSome = true
  rw [Reader.readFloat, String.toList_ofList]
  split
  next =>
    cases same
    simp [isAsciiDigit] at digit
  next =>
    cases same
    simp [isAsciiDigit] at digit
  next => exact magnitude

end ParserCombinators.Calculator
