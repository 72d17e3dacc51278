/-
This file computes the matches of patterns that read runs of characters. The preferred match is as
long as it can be.
-/

import ParserCombinators.Proofs.Movement
import ParserCombinators.Proofs.Pattern.Match

namespace ParserCombinators.Pattern

/-- The longest first part of a text that lies in the class. -/
def longestRun (characters : CharacterClass) (text : List Char) : List Char :=
  text.takeWhile characters.contains

/-- What is left of a text behind its longest run. -/
def afterRun (characters : CharacterClass) (text : List Char) : List Char :=
  text.dropWhile characters.contains

theorem longestRun_append_afterRun (characters : CharacterClass) (text : List Char) :
    longestRun characters text ++ afterRun characters text = text :=
  List.takeWhile_append_dropWhile

section

variable {characters : CharacterClass}

theorem contains_of_mem_longestRun {text : List Char} {character : Char}
    (member : character ∈ longestRun characters text) : characters.contains character = true :=
  List.all_eq_true.mp List.all_takeWhile character member

theorem longestRun_cons {character : Char} (belongs : characters.contains character = true)
    (text : List Char) :
    longestRun characters (character :: text) = character :: longestRun characters text := by
  simp [longestRun, belongs]

theorem longestRun_cons_eq_nil {character : Char}
    (outside : characters.contains character = false) (text : List Char) :
    longestRun characters (character :: text) = [] := by
  simp [longestRun, outside]

variable {run more : List Char}

/-- The longest run goes on behind a run. -/
theorem longestRun_run_append (inside : ∀ character ∈ run, characters.contains character = true)
    (more : List Char) : longestRun characters (run ++ more) = run ++ longestRun characters more :=
  List.takeWhile_append_of_pos inside

theorem afterRun_run_append (inside : ∀ character ∈ run, characters.contains character = true)
    (more : List Char) : afterRun characters (run ++ more) = afterRun characters more :=
  List.dropWhile_append_of_pos inside

/-- Where no character of the class follows there is no run. -/
theorem longestRun_eq_nil
    (stops : ∀ character ∈ more.head?, characters.contains character = false) :
    longestRun characters more = [] := by
  cases more with
  | nil => rfl
  | cons character more => exact longestRun_cons_eq_nil (stops character rfl) more

/-- A run ends where a character follows that is not in the class. -/
theorem longestRun_append (inside : ∀ character ∈ run, characters.contains character = true)
    (stops : ∀ character ∈ more.head?, characters.contains character = false) :
    longestRun characters (run ++ more) = run := by
  rw [longestRun_run_append inside, longestRun_eq_nil stops, List.append_nil]

theorem afterRun_eq_self (stops : ∀ character ∈ more.head?, characters.contains character = false) :
    afterRun characters more = more := by
  have whole := longestRun_append_afterRun characters more
  rw [longestRun_eq_nil stops] at whole
  exact whole

end

/-- From the first address the program waits for a character of the class. From the second one it
may also accept. -/
structure Program.Repeats (program : Program) (characters : CharacterClass) (start again : Nat) :
    Prop where
  begins : ∀ place, program.front place [start] = ⟨[(characters, again)], false⟩
  continues : ∀ place, program.front place [again] = ⟨[(characters, again)], true⟩

namespace Program.Repeats

variable {program : Program} {characters : CharacterClass} {start again : Nat}

/-- A repetition that has begun ends behind the longest run. -/
theorem advance_again (repeats : program.Repeats characters start again)
    (previous : Option Char) (offset : Nat) (best : Option Nat) (rest : List Char) :
    program.advance previous offset [again] best rest =
      some (offset + Medium.measure .text (longestRun characters rest)) := by
  induction rest generalizing previous offset best with
  | nil => simp [advance, repeats.continues, longestRun, Medium.measure]
  | cons character rest inductionHypothesis =>
      cases belongs : characters.contains character with
      | true =>
          rw [longestRun_cons belongs]
          simp only [advance, repeats.continues, Front.afterReading, List.filterMap_cons, belongs,
            List.filterMap_nil, ↓reduceIte, inductionHypothesis, Medium.measure, Medium.width,
            Nat.add_assoc]
      | false =>
          rw [longestRun_cons_eq_nil belongs]
          simp [advance, repeats.continues, Front.afterReading, belongs, Medium.measure]

/-- A repetition needs at least one character of the class. -/
theorem advance_start (repeats : program.Repeats characters start again)
    (previous : Option Char) (offset : Nat) (best : Option Nat) (rest : List Char) :
    program.advance previous offset [start] best rest =
      if longestRun characters rest = [] then best
      else some (offset + Medium.measure .text (longestRun characters rest)) := by
  cases rest with
  | nil => simp [advance, repeats.begins, longestRun]
  | cons character rest =>
      cases belongs : characters.contains character with
      | true =>
          have later := repeats.advance_again (some character) (offset + character.utf8Size) best
            rest
          rw [longestRun_cons belongs]
          simp [advance, repeats.begins, Front.afterReading, belongs, later, Medium.measure,
            Medium.width, Nat.add_assoc]
      | false =>
          rw [longestRun_cons_eq_nil belongs]
          simp [advance, repeats.begins, Front.afterReading, belongs]

end Program.Repeats

/-- Everywhere in a text the pattern matches what the function finds in the rest. -/
structure Finds (pattern : Pattern) (find : List Char → Option (List Char)) : Prop where
  begins : ∀ {text found : List Char}, find text = some found → found <+: text
  matchFrom_eq : ∀ first rest : List Char,
    pattern.matchFrom (first ++ rest) (Medium.measure .text first) =
      (find rest).map fun found =>
        ⟨Medium.measure .text first, Medium.measure .text first + Medium.measure .text found⟩

/-- A pattern finds what its program finds at every place. -/
theorem finds_ofProgram {source : String} {program : Program}
    {find : List Char → Option (List Char)}
    (begins : ∀ {text found : List Char}, find text = some found → found <+: text)
    (matchEnd_eq : ∀ place : Place, program.matchEnd place =
      (find place.rest).map fun found => place.offset + Medium.measure .text found) :
    (ofProgram source program).Finds find where
  begins := begins
  matchFrom_eq first rest := by
    rw [matchFrom, ofProgram, Program.filter_find_append, matchEnd_eq, Option.map_map]
    rfl

namespace Finds

variable {pattern : Pattern} {find : List Char → Option (List Char)}

/-- The match at a cursor covers what is found. -/
theorem matchFrom_cursor (finds : pattern.Finds find) {cursor : Cursor .text}
    (boundary : cursor.OnBoundary) :
    pattern.matchFrom cursor.input cursor.index = (find cursor.rest).map fun found =>
      ⟨cursor.index, cursor.index + Medium.measure .text found⟩ := by
  obtain ⟨first, same, total⟩ := boundary.split
  have matched := finds.matchFrom_eq first cursor.rest
  rw [← same, total] at matched
  exact matched

/-- Where something is found, the pattern reads just that. -/
theorem read_of_some (finds : pattern.Finds find) {cursor : Cursor .text} (ready : cursor.Ready)
    {consumed : List Char} (found : find cursor.rest = some consumed) :
    (Leaf.pattern pattern).read cursor =
      .success (cursor.past consumed) (String.ofList consumed) := by
  obtain ⟨more, unread⟩ := finds.begins found
  have matched := finds.matchFrom_cursor ready.onBoundary
  rw [found] at matched
  simp only [Leaf.read, Leaf.readPattern, matched, Option.map_some, Nat.add_sub_cancel_left]
  exact Reading.consume_eq_success ready.toValid unread.symm String.ofList

/-- Where nothing is found, the pattern fails. -/
theorem read_of_none (finds : pattern.Finds find) {cursor : Cursor .text} (ready : cursor.Ready)
    (found : find cursor.rest = none) :
    ∃ reason, (Leaf.pattern pattern).read cursor = .failure reason := by
  have matched := finds.matchFrom_cursor ready.onBoundary
  rw [found] at matched
  simp only [Leaf.read, Leaf.readPattern, matched, Option.map_none]
  exact ⟨_, rfl⟩

/-- A pattern that never finds an empty text has no empty match. -/
theorem not_matchesEmpty (finds : pattern.Finds find) (some : ∀ text, find text ≠ some []) :
    ¬ pattern.MatchesEmpty := by
  rintro ⟨text, offset, matched⟩
  obtain ⟨first, consumed, more, rfl, rfl, _⟩ := matchFrom_eq_some matched
  rw [finds.matchFrom_eq, Option.map_eq_some_iff] at matched
  obtain ⟨found, same, empty⟩ := matched
  have nothing : found = [] := by
    rw [← @Medium.measure_eq_zero_iff .text]
    have stops := congrArg Span.stop empty
    simp only at stops
    omega
  exact some _ (nothing ▸ same)

end Finds

/-- The longest run of the class, unless it is empty. -/
def someRun (characters : CharacterClass) (text : List Char) : Option (List Char) :=
  if longestRun characters text = [] then none else some (longestRun characters text)

/-- A repetition of a class finds the longest run of the class. -/
theorem finds_repetition (source : String) (characters : CharacterClass) :
    (ofExpression source (.repetition 1 none true (.one characters))).Finds
      (someRun characters) := by
  apply finds_ofProgram
  · intro text found same
    rw [someRun] at same
    split at same
    next => simp at same
    next =>
      rw [← Option.some.inj same]
      exact List.takeWhile_prefix _
  · intro place
    have repeats : (Program.ofExpression (.repetition 1 none true (.one characters))).Repeats
        characters 2 1 := ⟨fun _ => rfl, fun _ => rfl⟩
    have run := repeats.advance_start place.previous place.offset none place.rest
    rw [someRun]
    split
    next nothing =>
      rw [if_pos nothing] at run
      exact run
    next something =>
      rw [if_neg something] at run
      exact run

/-- These characters of the class are not empty, and no other one follows them. -/
structure MaximalRun (characters : CharacterClass) (run more : List Char) : Prop where
  nonempty : run ≠ []
  inside : ∀ character ∈ run, characters.contains character = true
  stops : ∀ character ∈ more.head?, characters.contains character = false

theorem MaximalRun.contains_head {characters : CharacterClass} {run more : List Char}
    (maximal : MaximalRun characters run more) {character : Char}
    (isHead : character ∈ (run ++ more).head?) : characters.contains character = true := by
  obtain ⟨first, others, rfl⟩ := List.exists_cons_of_ne_nil maximal.nonempty
  obtain rfl := Option.some.inj isHead
  exact maximal.inside first (List.mem_cons_self ..)

theorem afterRun_stops (characters : CharacterClass) (text : List Char) :
    ∀ character ∈ (afterRun characters text).head?, characters.contains character = false := by
  induction text with
  | nil => nofun
  | cons first text inductionHypothesis =>
      rw [afterRun, List.dropWhile_cons]
      split
      next => exact inductionHypothesis
      next outside =>
        rintro _ ⟨⟩
        exact Bool.eq_false_iff.mpr outside

/-- What a repetition finds is the maximal run at the beginning of the text. -/
theorem someRun_eq_some_iff {characters : CharacterClass} {text run : List Char} :
    someRun characters text = some run ↔
      ∃ more, text = run ++ more ∧ MaximalRun characters run more := by
  constructor
  · intro found
    rw [someRun] at found
    split at found
    next => cases found
    next nonempty =>
      cases found
      exact ⟨afterRun characters text, (longestRun_append_afterRun characters text).symm, nonempty,
        fun _ => contains_of_mem_longestRun, afterRun_stops characters text⟩
  · rintro ⟨more, rfl, maximal⟩
    rw [someRun, longestRun_append maximal.inside maximal.stops, if_neg maximal.nonempty]

theorem someRun_ne_some_nil {characters : CharacterClass} (text : List Char) :
    someRun characters text ≠ some [] := by
  intro found
  obtain ⟨more, _, maximal⟩ := someRun_eq_some_iff.mp found
  exact maximal.nonempty rfl

/-- At most one maximal run begins a text. -/
theorem MaximalRun.unique {characters : CharacterClass} {run more run' more' : List Char}
    (maximal : MaximalRun characters run more) (maximal' : MaximalRun characters run' more')
    (same : run ++ more = run' ++ more') : run = run' := by
  have found := someRun_eq_some_iff.mpr ⟨more, rfl, maximal⟩
  have found' := someRun_eq_some_iff.mpr ⟨more', rfl, maximal'⟩
  rw [same, found'] at found
  exact (Option.some.inj found).symm

/-- Digits are found as a whole. -/
theorem finds_digits : digits.Finds (someRun .asciiDigit) := finds_repetition _ _

/-- White space is found as a whole. -/
theorem finds_whiteSpace : whiteSpace.Finds (someRun .whiteSpace) := finds_repetition _ _

end ParserCombinators.Pattern
