/-
This file describes what a parser can read: texts, measured in UTF-8 bytes, and slices, measured
in elements.
-/

import ParserCombinators.Text.Quoted

namespace ParserCombinators

open Text

/-- A slice medium knows how one of its elements is shown. -/
inductive Medium : Type 1
  | text
  | slice (Element : Type) (render : Element → String)

namespace Medium

@[reducible] def Element : Medium → Type
  | .text => Char
  | .slice Element _ => Element

@[reducible] def bytes : Medium := .slice UInt8 fun byte => toString byte.toNat

@[reducible] def integers : Medium := .slice Int toString

@[reducible] def characters : Medium := .slice Char quoteCharacter

@[reducible] def strings : Medium := .slice String quoteText

/-- A character is as wide as its UTF-8 encoding. Every element of a slice has width one. -/
def width : (medium : Medium) → medium.Element → Nat
  | .text, character => character.utf8Size
  | .slice _ _, _ => 1

theorem width_pos (medium : Medium) (element : medium.Element) : 0 < medium.width element := by
  cases medium with
  | text => exact Char.utf8Size_pos element
  | slice => exact Nat.one_pos

/-- The measure of a list of elements is the sum of their widths. -/
def measure (medium : Medium) : List medium.Element → Nat
  | [] => 0
  | element :: rest => medium.width element + medium.measure rest

/-- The elements after the first `index` units. There are none when the index lies inside an
element or beyond the last one. -/
def after (medium : Medium) : List medium.Element → Nat → Option (List medium.Element)
  | elements, 0 => some elements
  | [], _ + 1 => none
  | element :: rest, index + 1 =>
      if medium.width element ≤ index + 1 then
        medium.after rest (index + 1 - medium.width element)
      else none

/-- Some first elements end exactly at the index. -/
def Boundary (medium : Medium) (elements : List medium.Element) (index : Nat) : Prop :=
  ∃ first, first <+: elements ∧ medium.measure first = index

/-- The elements that make up the first `length` units, if such elements exist. -/
def upTo (medium : Medium) : List medium.Element → Nat → Option (List medium.Element)
  | _, 0 => some []
  | [], _ + 1 => none
  | element :: rest, length + 1 =>
      if medium.width element ≤ length + 1 then
        (medium.upTo rest (length + 1 - medium.width element)).map (element :: ·)
      else none

/-- A text is previewed as it is and a slice as a list of shown elements. -/
def preview : (medium : Medium) → List medium.Element → String
  | .text, characters => String.ofList characters
  | .slice _ render, elements => showItems (elements.map render)

theorem measure_append (medium : Medium) (first second : List medium.Element) :
    medium.measure (first ++ second) = medium.measure first + medium.measure second := by
  induction first with
  | nil => simp [measure]
  | cons element first inductionHypothesis =>
      simp [measure, inductionHypothesis, Nat.add_assoc]

theorem after_append (medium : Medium) (first second : List medium.Element) (index : Nat) :
    medium.after (first ++ second) (medium.measure first + index) = medium.after second index := by
  induction first with
  | nil => simp [measure]
  | cons element first inductionHypothesis =>
      have positive := medium.width_pos element
      have split : medium.measure (element :: first) + index =
          (medium.width element + medium.measure first + index - 1) + 1 := by
        simp only [measure]
        omega
      rw [split, List.cons_append, after, if_pos (by omega),
        show medium.width element + medium.measure first + index - 1 + 1 - medium.width element =
          medium.measure first + index by omega]
      exact inductionHypothesis

theorem upTo_append (medium : Medium) (first second : List medium.Element) :
    medium.upTo (first ++ second) (medium.measure first) = some first := by
  induction first with
  | nil => cases second <;> simp [measure, upTo]
  | cons element first inductionHypothesis =>
      have positive := medium.width_pos element
      have split : medium.measure (element :: first) =
          (medium.width element + medium.measure first - 1) + 1 := by
        simp only [measure]
        omega
      rw [split, List.cons_append, upTo, if_pos (by omega),
        show medium.width element + medium.measure first - 1 + 1 - medium.width element =
          medium.measure first by omega, inductionHypothesis]
      rfl

/-- The rest of the input begins where a first part of the given measure ends. -/
theorem after_eq_some_iff (medium : Medium) (elements rest : List medium.Element) (index : Nat) :
    medium.after elements index = some rest ↔
      ∃ first, elements = first ++ rest ∧ medium.measure first = index := by
  constructor
  · intro found
    induction elements generalizing index with
    | nil =>
        cases index with
        | zero => exact ⟨[], by simpa [after] using found, rfl⟩
        | succ index => simp [after] at found
    | cons element elements inductionHypothesis =>
        cases index with
        | zero => exact ⟨[], by simpa [after] using found, rfl⟩
        | succ index =>
            rw [after] at found
            split at found
            next fits =>
              obtain ⟨first, same, total⟩ := inductionHypothesis _ found
              refine ⟨element :: first, by simp [same], ?_⟩
              simp only [measure]
              omega
            next => simp at found
  · rintro ⟨first, rfl, rfl⟩
    simpa [after] using medium.after_append first rest 0

end Medium

end ParserCombinators
