/-
This file shows that a program is read with the values of its expressions.
-/

import ParserCombinators.Proofs.Calculator.Expression

namespace ParserCombinators.Calculator

open ParserCombinators.Parser ParserCombinators.Pattern ParserCombinators.Text

variable {N : Type} {arithmetic : Arithmetic N}
  {call : (rule : Rule) → Behaviour .text Unit ((signature N).result rule)} {fuel : Nat}
  {cursor : Cursor .text}

/-- Further expressions follow an expression at its end. -/
theorem Following.mayEnd {rest : List Char} {trees : List Tree} (following : Following rest trees) :
    (Phrase.level .sum).MayEnd rest := by
  cases following with
  | none => nofun
  | next =>
      rintro _ ⟨⟩
      exact .tail _ List.mem_cons_self

/-- Where nothing is left to read there is no expression. -/
theorem refuses_expression {behaviour : Behaviour .text Unit N}
    (recognizes : Recognizes arithmetic (.level .sum) behaviour) (ready : cursor.Ready)
    (nothing : cursor.rest = []) : behaviour.Ensures cursor (fun _ _ => False) True := by
  refine (recognizes.sound ready).imp ?_ id
  rintro next value ⟨consumed, more, tree, unread, _, derives, _⟩
  obtain ⟨first, rest, rfl, _⟩ := derives.begins nofun
  rw [nothing] at unread
  cases unread

/-- The values of the trees of a list. -/
theorem mapM_value_cons {tree : Tree} {trees : List Tree} {value : N} {values : List N}
    (known : tree.value arithmetic = some value)
    (others : trees.mapM (Tree.value arithmetic) = some values) :
    (tree :: trees).mapM (Tree.value arithmetic) = some (value :: values) := by
  rw [List.mapM_cons, known, others]
  rfl

theorem exists_mapM_value_cons {tree : Tree} {trees : List Tree} {values : List N}
    (known : (tree :: trees).mapM (Tree.value arithmetic) = some values) :
    ∃ value others, tree.value arithmetic = some value ∧
      trees.mapM (Tree.value arithmetic) = some others ∧ values = value :: others := by
  simp only [List.mapM_cons, Option.bind_eq_bind, Option.bind_eq_some_iff, Option.pure_def,
    Option.some.injEq] at known
  obtain ⟨value, valueKnown, others, othersKnown, rfl⟩ := known
  exact ⟨value, others, valueKnown, othersKnown, rfl⟩

section

variable {item : Behaviour .text Unit N}

/-- A semicolon and an expression. -/
def nextItem (call : (rule : Rule) → Behaviour .text Unit ((signature N).result rule))
    (fuel : Nat) (item : Behaviour .text Unit N) : Behaviour .text Unit N :=
  Behaviour.separated
    ((token (literal ";") : Parser (signature N) String).behaviour call fuel) item

/-- Behind a semicolon an expression is read. -/
theorem sound_nextItem (recognizes : Recognizes arithmetic (.level .sum) item)
    (ready : cursor.Ready) :
    (nextItem call fuel item).Ensures cursor
      (fun next value => ∃ space text more tree, IsSpace space ∧
        cursor.rest = (";".toList ++ space ++ text) ++ more ∧
          next = cursor.past (";".toList ++ space ++ text) ∧
            Derives (.level .sum) text tree ∧ tree.value arithmetic = some value) True := by
  apply ((ensures_symbol ready ";").imp (fun _ _ => id) fun _ => trivial).chain
  rintro middle _ ⟨text, unread, rfl⟩
  exact recognizes.sound_after ready unread

/-- Where nothing is left to read there is no semicolon. -/
theorem refuses_nextItem (ready : cursor.Ready) (nothing : cursor.rest = []) :
    (nextItem call fuel item).Ensures cursor (fun _ _ => False) True := by
  have refuses : ((token (literal ";") : Parser (signature N) String).behaviour call
      fuel).Ensures cursor (fun _ _ => False) True := by
    refine (ensures_symbol ready ";").imp ?_ fun _ => trivial
    rintro next _ ⟨text, unread, _⟩
    rw [nothing] at unread
    cases unread
  exact refuses.chain fun _ _ => False.elim

/-- A derived expression behind a semicolon is read as a whole. -/
theorem complete_nextItem (recognizes : Recognizes arithmetic (.level .sum) item)
    (ready : cursor.Ready) {space text rest : List Char} {tree : Tree} {value : N}
    (unread : cursor.rest = (";".toList ++ space ++ text) ++ rest) (isSpace : IsSpace space)
    (derives : Derives (.level .sum) text tree) (known : tree.value arithmetic = some value)
    (mayEnd : (Phrase.level .sum).MayEnd rest) :
    (nextItem call fuel item).Ensures cursor
      (fun next other => next = cursor.past (";".toList ++ space ++ text) ∧ other = value)
      False := by
  have opening : cursor.rest = ";".toList ++ (space ++ (text ++ rest)) := by
    rw [unread]
    simp only [List.append_assoc]
  have skipped := longestRun_before isSpace derives nofun rest
  apply (ensures_symbol_of_rest ready opening skipped).chain
  rintro middle _ rfl
  exact recognizes.complete_after ready unread derives known mayEnd

theorem sound_following (recognizes : Recognizes arithmetic (.level .sum) item) (rounds : Nat)
    (ready : cursor.Ready) (values : List N) :
    (Behaviour.repeatFrom (nextItem call fuel item) rounds values).Ensures cursor
      (fun next all => ∃ consumed more trees found, cursor.rest = consumed ++ more ∧
        next = cursor.past consumed ∧ Following consumed trees ∧
          trees.mapM (Tree.value arithmetic) = some found ∧ all = values.reverse ++ found)
      False := by
  induction rounds generalizing cursor values with
  | zero =>
      intro session
      trivial
  | succ rounds inductionHypothesis =>
      apply (sound_nextItem recognizes ready).repeatFrom_succ
      · rintro next value ⟨space, text, more, tree, isSpace, unread, rfl, derives, known⟩
        refine (inductionHypothesis (ready.past unread) (value :: values)).imp ?_ id
        rintro last all ⟨consumed, others, trees, found, behind, rfl, following, foundKnown, rfl⟩
        rw [Cursor.rest_past unread] at behind
        refine ⟨";".toList ++ space ++ text ++ consumed, others, tree :: trees, value :: found, ?_,
          ?_, .next isSpace derives following, mapM_value_cons known foundKnown, ?_⟩
        · rw [unread, behind]
          simp only [List.append_assoc]
        · rw [Cursor.past_past]
        · simp
      · intro _
        exact ⟨[], cursor.rest, [], [], rfl, rfl, .none, rfl, (List.append_nil _).symm⟩

/-- All further expressions are read when they go on to the end. -/
theorem complete_following (recognizes : Recognizes arithmetic (.level .sum) item) (rounds : Nat)
    (ready : cursor.Ready) (values : List N) {trees : List Tree} {found : List N}
    (following : Following cursor.rest trees)
    (known : trees.mapM (Tree.value arithmetic) = some found) :
    (Behaviour.repeatFrom (nextItem call fuel item) rounds values).Ensures cursor
      (fun next all => next = cursor.past cursor.rest ∧ all = values.reverse ++ found) False := by
  induction rounds generalizing cursor values trees found with
  | zero =>
      intro session
      trivial
  | succ rounds inductionHypothesis =>
      generalize unread : cursor.rest = rest at following
      cases following with
      | none =>
          refine (refuses_nextItem ready unread).repeatFrom_succ (fun _ _ => False.elim) fun _ =>
            ⟨rfl, ?_⟩
          cases known
          exact (List.append_nil _).symm
      | @next space text rest tree trees isSpace derives following =>
          obtain ⟨value, others, valueKnown, othersKnown, rfl⟩ := exists_mapM_value_cons known
          have split : cursor.rest = (";".toList ++ space ++ text) ++ rest := unread
          refine (complete_nextItem recognizes ready split isSpace derives valueKnown
            following.mayEnd).repeatFrom_succ ?_ False.elim
          rintro next other ⟨rfl, rfl⟩
          have behind := Cursor.rest_past split
          rw [← behind] at following
          refine (inductionHypothesis (ready.past split) (other :: values) following
            othersKnown).imp ?_ id
          rintro last all ⟨rfl, rfl⟩
          rw [behind, Cursor.past_past]
          exact ⟨rfl, by simp⟩

end

/-- What is read is a program with these values. -/
theorem sound_program (recognizes : Recognizes arithmetic (.level .sum) (call .expression))
    (ready : cursor.Ready) :
    ((program arithmetic).behaviour call fuel).Ensures cursor
      (fun next values => ∃ consumed more trees, cursor.rest = consumed ++ more ∧
        next = cursor.past consumed ∧ IsProgram consumed trees ∧
          trees.mapM (Tree.value arithmetic) = some values) False := by
  have item : Recognizes arithmetic (.level .sum) ((expression arithmetic).behaviour call fuel) :=
    recognizes_expression recognizes
  apply Behaviour.Ensures.map
  apply ensures_pair (ensures_whiteSpace ready)
  rintro middle _ rfl
  have unread : cursor.rest = [] ++ cursor.rest := rfl
  apply (item.sound_after ready unread).sepBy
  · rintro next value ⟨space, text, more, tree, isSpace, unread, rfl, derives, known⟩
    refine (sound_following item fuel (ready.past unread) [value]).imp ?_ id
    rintro last all ⟨consumed, others, trees, found, behind, rfl, following, foundKnown, rfl⟩
    rw [Cursor.rest_past unread] at behind
    refine ⟨space ++ text ++ consumed, others, tree :: trees, ?_, ?_,
      .expressions isSpace derives following, mapM_value_cons known foundKnown⟩
    · rw [unread, behind]
      simp only [List.append_assoc, List.nil_append]
    · rw [Cursor.past_past]
      rfl
  · intro _
    exact ⟨_, _, [], rest_after_symbol unread, rfl, .empty (isSpace_longestRun _), rfl⟩

/-- A program that goes on to the end is read as a whole. -/
theorem complete_program (recognizes : Recognizes arithmetic (.level .sum) (call .expression))
    (ready : cursor.Ready) {trees : List Tree} {values : List N}
    (isProgram : IsProgram cursor.rest trees)
    (known : trees.mapM (Tree.value arithmetic) = some values) :
    ((program arithmetic).behaviour call fuel).Ensures cursor
      (fun next found => next = cursor.past cursor.rest ∧ found = values) False := by
  have item : Recognizes arithmetic (.level .sum) ((expression arithmetic).behaviour call fuel) :=
    recognizes_expression recognizes
  apply Behaviour.Ensures.map
  apply ensures_pair (ensures_whiteSpace ready)
  rintro middle _ rfl
  generalize unread : cursor.rest = rest at isProgram
  cases isProgram with
  | empty isSpace =>
      have whole : longestRun .whiteSpace (rest ++ []) = rest := longestRun_append isSpace nofun
      have split : cursor.rest = rest ++ [] := by rw [unread, List.append_nil]
      have refuses := refuses_expression item (ready.past split) (Cursor.rest_past split)
      rw [List.append_nil] at whole
      rw [whole]
      cases known
      exact refuses.sepBy (fun _ _ => False.elim) fun _ => ⟨rfl, rfl⟩
  | @expressions space text rest tree trees isSpace derives following =>
      obtain ⟨value, others, valueKnown, othersKnown, rfl⟩ := exists_mapM_value_cons known
      have split : cursor.rest = ([] ++ space ++ text) ++ rest := unread
      have skipped := longestRun_before isSpace derives nofun rest
      rw [List.append_assoc, skipped]
      apply (item.complete_after ready split derives valueKnown following.mayEnd).sepBy
      · rintro next other ⟨rfl, rfl⟩
        have behind := Cursor.rest_past split
        rw [← behind] at following
        refine (complete_following item fuel (ready.past split) [other] following othersKnown).imp
          ?_ id
        rintro last all ⟨rfl, rfl⟩
        rw [behind, Cursor.past_past]
        refine ⟨?_, rfl⟩
        rw [List.nil_append, List.append_assoc]
      · exact False.elim

end ParserCombinators.Calculator
