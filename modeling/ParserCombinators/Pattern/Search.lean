/-
This file runs programs on texts. The match that is found lies between the offset where the search
begins and the end of the text, and no character is divided.
-/

import ParserCombinators.Medium
import ParserCombinators.Pattern.Program

namespace ParserCombinators.Pattern

/-- The threads that wait to read a character, the preferred one first, and whether a thread has
accepted that is preferred to all others that are left out. -/
structure Front where
  waiting : List (CharacterClass × Nat)
  accepted : Bool

/-- The threads that have read the character. -/
def Front.afterReading (front : Front) (character : Char) : List Nat :=
  front.waiting.filterMap fun thread =>
    if thread.1.contains character then some thread.2 else none

/-- A match covers the text from its start to its stop. -/
structure Span where
  start : Nat
  stop : Nat
  deriving Repr, DecidableEq

namespace Program

/-- Each step without reading takes the preferred thread. No two threads come to the same address at
the same place, and the preferred one of them goes on. When a thread accepts, the threads behind it
are given up. -/
def settle (program : Program) (place : Place) :
    Nat → List Nat → Array Bool → List (CharacterClass × Nat) → Front
  | 0, _, _, waiting => ⟨waiting.reverse, false⟩
  | _ + 1, [], _, waiting => ⟨waiting.reverse, false⟩
  | fuel + 1, address :: pending, seen, waiting =>
      if seen.getD address true then settle program place fuel pending seen waiting
      else
        let seen := seen.setIfInBounds address true
        match program.code.getD address .accept with
        | .accept => ⟨waiting.reverse, true⟩
        | .read characters next =>
            settle program place fuel pending seen ((characters, next) :: waiting)
        | .check condition next =>
            settle program place fuel (if condition.holds place then next :: pending else pending)
              seen waiting
        | .branch preferred other =>
            settle program place fuel (preferred :: other :: pending) seen waiting

/-- All threads at one place. Every address adds at most two threads, which bounds the steps. -/
def front (program : Program) (place : Place) (threads : List Nat) : Front :=
  program.settle place (threads.length + 2 * program.code.size) threads
    (Array.replicate program.code.size false) []

/-- Each place may end the match. The last place where a thread accepts ends the preferred match,
because the threads that are left there are preferred to the one that accepted before. -/
def advance (program : Program) (previous : Option Char) (offset : Nat) (threads : List Nat)
    (best : Option Nat) : List Char → Option Nat
  | [] =>
      if (program.front ⟨previous, [], offset⟩ threads).accepted then some offset else best
  | character :: rest =>
      let front := program.front ⟨previous, character :: rest, offset⟩ threads
      let best := if front.accepted then some offset else best
      match front.afterReading character with
      | [] => best
      | threads =>
          advance program (some character) (offset + character.utf8Size) threads best rest

/-- The offset where the preferred match that begins at the place ends. -/
def matchEnd (program : Program) (place : Place) : Option Nat :=
  program.advance place.previous place.offset [program.entry] none place.rest

/-- The preferred match that begins at the place. A search has not begun before its offset. -/
def matchAt (program : Program) (offset : Nat) (place : Place) : Option Span :=
  if offset ≤ place.offset then (program.matchEnd place).map (⟨place.offset, ·⟩) else none

/-- The leftmost match is found first. -/
def findFrom (program : Program) (offset : Nat) (previous : Option Char) (here : Nat) :
    List Char → Option Span
  | [] => program.matchAt offset ⟨previous, [], here⟩
  | character :: rest =>
      (program.matchAt offset ⟨previous, character :: rest, here⟩).or
        (findFrom program offset (some character) (here + character.utf8Size) rest)

/-- The whole text is visible, so assertions see the characters before the offset. -/
def find (program : Program) (text : List Char) (offset : Nat) : Option Span :=
  program.findFrom offset none 0 text

section

variable {program : Program} {place : Place} {previous : Option Char} {offset here stop : Nat}
  {rest : List Char} {span : Span}

/-- A program ends a match at an earlier choice or behind some of the characters. -/
theorem advance_eq_some {threads : List Nat} {best : Option Nat} {final : Nat}
    (found : program.advance previous offset threads best rest = some final) :
    best = some final ∨ ∃ consumed more, rest = consumed ++ more ∧
      final = offset + Medium.measure .text consumed := by
  induction rest generalizing previous offset threads best with
  | nil =>
      rw [advance] at found
      split at found
      · exact .inr ⟨[], [], rfl, (Option.some.inj found).symm⟩
      · exact .inl found
  | cons character rest inductionHypothesis =>
      -- The offset of the present place may become the best one before the character is read.
      have here (chosen : Option Nat) (accepted : Bool)
          (same : (if accepted then some offset else best) = chosen)
          (kept : chosen = some final) : best = some final ∨
          ∃ consumed more, character :: rest = consumed ++ more ∧
            final = offset + Medium.measure .text consumed := by
        subst same
        split at kept
        · exact .inr ⟨[], character :: rest, rfl, (Option.some.inj kept).symm⟩
        · exact .inl kept
      simp only [advance] at found
      split at found
      · exact here _ _ rfl found
      · rcases inductionHypothesis found with kept | ⟨consumed, more, same, ends⟩
        · exact here _ _ rfl kept
        · refine .inr ⟨character :: consumed, more, by rw [same]; rfl, ?_⟩
          rw [ends]
          simp only [Medium.measure, Medium.width]
          omega

/-- A match ends behind some of the characters at the place. -/
theorem matchEnd_eq_some (found : program.matchEnd place = some stop) :
    ∃ consumed more, place.rest = consumed ++ more ∧
      stop = place.offset + Medium.measure .text consumed :=
  (advance_eq_some found).resolve_left nofun

theorem matchAt_eq_some (found : program.matchAt offset place = some span) :
    offset ≤ place.offset ∧ span.start = place.offset ∧
      ∃ consumed more, place.rest = consumed ++ more ∧
        span.stop = place.offset + Medium.measure .text consumed := by
  rw [matchAt] at found
  split at found
  next begun =>
    obtain ⟨stop, ends, rfl⟩ := Option.map_eq_some_iff.mp found
    exact ⟨begun, rfl, matchEnd_eq_some ends⟩
  next => cases found

/-- The search passes some characters, and the match consumes some of those that follow. -/
theorem findFrom_eq_some (found : program.findFrom offset previous here rest = some span) :
    offset ≤ span.start ∧ ∃ passed consumed more, rest = passed ++ (consumed ++ more) ∧
      span.start = here + Medium.measure .text passed ∧
        span.stop = span.start + Medium.measure .text consumed := by
  induction rest generalizing previous here with
  | nil =>
      obtain ⟨begun, starts, consumed, more, split, stops⟩ := matchAt_eq_some found
      exact ⟨by omega, [], consumed, more, split, starts, by omega⟩
  | cons character rest inductionHypothesis =>
      rw [findFrom] at found
      rcases Option.or_eq_some_iff.mp found with matched | ⟨_, later⟩
      · obtain ⟨begun, starts, consumed, more, split, stops⟩ := matchAt_eq_some matched
        exact ⟨by omega, [], consumed, more, split, starts, by omega⟩
      · obtain ⟨begun, passed, consumed, more, rfl, starts, stops⟩ := inductionHypothesis later
        refine ⟨begun, character :: passed, consumed, more, rfl, ?_, stops⟩
        simp only [Medium.measure, Medium.width]
        omega

/-- Nothing is found before the search has begun. -/
theorem findFrom_append (first : List Char) (early : here + Medium.measure .text first ≤ offset) :
    program.findFrom offset previous here (first ++ rest) =
      program.findFrom offset (first.getLast?.or previous) (here + Medium.measure .text first)
        rest := by
  induction first generalizing previous here with
  | nil => rfl
  | cons character first inductionHypothesis =>
      have positive := Char.utf8Size_pos character
      simp only [Medium.measure, Medium.width] at early ⊢
      have notYet : program.matchAt offset ⟨previous, character :: (first ++ rest), here⟩ = none :=
        if_neg (show ¬ offset ≤ here by omega)
      have last : first.getLast?.or (some character) =
          (character :: first).getLast?.or previous := by
        rw [List.getLast?_cons]
        cases first.getLast? <;> rfl
      rw [List.cons_append, findFrom, notYet, Option.none_or, inductionHypothesis (by omega),
        last, Nat.add_assoc]

/-- A match that begins at the place is found first. Others begin further on. -/
theorem findFrom_eq_or : ∃ later : Option Span,
    program.findFrom offset previous here rest =
        (program.matchAt offset ⟨previous, rest, here⟩).or later ∧
      ∀ span, later = some span → here < span.start := by
  cases rest with
  | nil => exact ⟨none, Option.or_none.symm, nofun⟩
  | cons character rest =>
      refine ⟨program.findFrom offset (some character) (here + character.utf8Size) rest, rfl, ?_⟩
      intro span found
      obtain ⟨_, passed, _, _, _, starts, _⟩ := findFrom_eq_some found
      have positive := Char.utf8Size_pos character
      omega

/-- Of all matches that may be found, only the one at the offset begins there. -/
theorem filter_findFrom :
    (program.findFrom offset previous offset rest).filter (fun span => span.start == offset) =
      program.matchAt offset ⟨previous, rest, offset⟩ := by
  obtain ⟨later, same, behind⟩ := @findFrom_eq_or program previous offset offset rest
  rw [same]
  cases matched : program.matchAt offset ⟨previous, rest, offset⟩ with
  | some span =>
      obtain ⟨_, starts, _⟩ := matchAt_eq_some matched
      rw [Option.some_or, Option.filter_some, if_pos (beq_iff_eq.mpr starts)]
  | none =>
      rw [Option.none_or, Option.filter_eq_none_iff]
      intro span found starts
      exact Nat.ne_of_gt (behind span found) (beq_iff_eq.mp starts)

/-- A match that begins at the offset ends where the program ends it. -/
theorem filter_find_append (program : Program) (first rest : List Char) :
    (program.find (first ++ rest) (Medium.measure .text first)).filter
        (fun span => span.start == Medium.measure .text first) =
      (program.matchEnd ⟨first.getLast?, rest, Medium.measure .text first⟩).map
        (⟨Medium.measure .text first, ·⟩) := by
  rw [find, findFrom_append first (Nat.le_of_eq (Nat.zero_add _)), Nat.zero_add, Option.or_none,
    filter_findFrom]
  exact if_pos (Nat.le_refl _)

variable {text : List Char}

theorem find_bounds (found : program.find text offset = some span) :
    offset ≤ span.start ∧ span.start ≤ span.stop ∧ span.stop ≤ Medium.measure .text text := by
  obtain ⟨begun, passed, consumed, more, rfl, starts, stops⟩ := findFrom_eq_some found
  simp only [@Medium.measure_append .text]
  omega

theorem find_boundaries (found : program.find text offset = some span) :
    Medium.text.Boundary text span.start ∧ Medium.text.Boundary text span.stop := by
  obtain ⟨_, passed, consumed, more, rfl, starts, stops⟩ := findFrom_eq_some found
  refine ⟨⟨passed, List.prefix_append .., by omega⟩, passed ++ consumed, ?_, ?_⟩
  · rw [← List.append_assoc]
    exact List.prefix_append ..
  · rw [@Medium.measure_append .text]
    omega

end

end Program

end ParserCombinators.Pattern
