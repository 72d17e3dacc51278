/-
This file describes texts that consist of words and a rest. A repetition whose parser reads one word
reads all of them.
-/

import ParserCombinators.Proofs.Rules

namespace ParserCombinators

variable {E W : Type}

/-- Each word is written in one way. What may stand behind it can depend on the word. -/
structure Vocabulary (E W : Type) where
  write : W → List E
  allows : W → List E → Prop

namespace Vocabulary

/-- The text begins with the word, and the rest stands behind it. -/
structure Begins (words : Vocabulary E W) (text : List E) (word : W) (rest : List E) : Prop where
  written : text = words.write word ++ rest
  allowed : words.allows word rest

/-- A text begins with at most one word, and no word is empty. -/
structure Unambiguous (words : Vocabulary E W) : Prop where
  unique : ∀ {text rest rest' : List E} {word word' : W}, words.Begins text word rest →
    words.Begins text word' rest' → word = word'
  nonempty : ∀ {text rest : List E} {word : W}, words.Begins text word rest →
    words.write word ≠ []

/-- The text consists of these words and of a rest that begins with no word. -/
inductive Splits (words : Vocabulary E W) : List E → List W → List E → Prop
  | none {text : List E} (noWord : ∀ word rest, ¬ words.Begins text word rest) :
      Splits words text [] text
  | next {text more rest : List E} {word : W} {others : List W}
      (begins : words.Begins text word more) (splits : Splits words more others rest) :
      Splits words text (word :: others) rest

variable {words : Vocabulary E W} {text rest rest' : List E}

/-- The empty text begins with no word. -/
theorem Unambiguous.not_begins_nil (unambiguous : words.Unambiguous) (word : W) (rest : List E) :
    ¬ words.Begins [] word rest := fun begins =>
  unambiguous.nonempty begins (List.append_eq_nil_iff.mp begins.written.symm).1

/-- Behind the word that begins a text there is one rest. -/
theorem Unambiguous.rest_eq (unambiguous : words.Unambiguous) {word word' : W}
    (begins : words.Begins text word rest) (begins' : words.Begins text word' rest') :
    word = word' ∧ rest = rest' := by
  obtain rfl := unambiguous.unique begins begins'
  exact ⟨rfl, List.append_cancel_left (begins.written.symm.trans begins'.written)⟩

namespace Splits

variable {found found' : List W}

/-- The words and the rest make up the whole text. -/
theorem written (splits : words.Splits text found rest) :
    text = found.flatMap words.write ++ rest := by
  induction splits with
  | none noWord => rfl
  | next begins splits inductionHypothesis =>
      rw [begins.written, inductionHypothesis, List.flatMap_cons, List.append_assoc]

/-- The rest begins with no word. -/
theorem noWord (splits : words.Splits text found rest) (word : W) (more : List E) :
    ¬ words.Begins rest word more := by
  induction splits with
  | none noWord => exact noWord word more
  | next begins splits inductionHypothesis => exact inductionHypothesis

/-- There is at most one way to split a text. -/
theorem unique (unambiguous : words.Unambiguous) (splits : words.Splits text found rest)
    (splits' : words.Splits text found' rest') : found = found' ∧ rest = rest' := by
  induction splits generalizing found' with
  | none noWord =>
      cases splits' with
      | none _ => exact ⟨rfl, rfl⟩
      | next begins _ => exact absurd begins (noWord _ _)
  | next begins splits inductionHypothesis =>
      cases splits' with
      | none noWord => exact absurd begins (noWord _ _)
      | next begins' splits' =>
          obtain ⟨rfl, rfl⟩ := unambiguous.rest_eq begins begins'
          obtain ⟨rfl, same⟩ := inductionHypothesis splits'
          exact ⟨rfl, same⟩

/-- Words that allow everything behind them may simply be written one after another. -/
theorem iff_written {allowed : W → Prop}
    (always : ∀ word rest, words.allows word rest ↔ allowed word) :
    words.Splits text found rest ↔ text = found.flatMap words.write ++ rest ∧
      (∀ word ∈ found, allowed word) ∧ ∀ word more, ¬ words.Begins rest word more := by
  constructor
  · intro splits
    refine ⟨splits.written, ?_, splits.noWord⟩
    induction splits with
    | none noWord => nofun
    | next begins splits inductionHypothesis =>
        exact List.forall_mem_cons.mpr ⟨(always _ _).mp begins.allowed, inductionHypothesis⟩
  · rintro ⟨rfl, allAllowed, noWord⟩
    induction found with
    | nil => exact .none noWord
    | cons word found inductionHypothesis =>
        obtain ⟨wordAllowed, othersAllowed⟩ := List.forall_mem_cons.mp allAllowed
        rw [List.flatMap_cons, List.append_assoc]
        exact .next ⟨rfl, (always _ _).mpr wordAllowed⟩ (inductionHypothesis othersAllowed)

end Splits

/-- Every text can be split. -/
theorem Unambiguous.exists_splits (unambiguous : words.Unambiguous) (text : List E) :
    ∃ found rest, words.Splits text found rest := by
  -- Every word leaves a shorter text.
  induction length : text.length using Nat.strongRecOn generalizing text with
  | ind count inductionHypothesis =>
      by_cases begun : ∃ word more, words.Begins text word more
      · obtain ⟨word, more, begins⟩ := begun
        have positive := List.length_pos_iff.mpr (unambiguous.nonempty begins)
        have shorter : more.length < count := by
          rw [← length, begins.written, List.length_append]
          omega
        obtain ⟨found, rest, splits⟩ := inductionHypothesis more.length shorter more rfl
        exact ⟨word :: found, rest, .next begins splits⟩
      · exact ⟨[], text, .none fun word more begins => begun ⟨word, more, begins⟩⟩

end Vocabulary

section

variable {medium : Medium} {Memory A : Type} {words : Vocabulary medium.Element W} {value : W → A}
  {behaviour : Behaviour medium Memory A} {cursor : Cursor medium}

/-- The behaviour reads the word that stands at the cursor and gives its value. Where there is no
word it fails. -/
def Behaviour.ReadsWord (behaviour : Behaviour medium Memory A)
    (words : Vocabulary medium.Element W) (value : W → A) : Prop :=
  ∀ cursor : Cursor medium, cursor.Ready → behaviour.Ensures cursor
    (fun next found => ∃ word rest, words.Begins cursor.rest word rest ∧
      next = cursor.past (words.write word) ∧ found = value word)
    (∀ word rest, ¬ words.Begins cursor.rest word rest)

theorem Behaviour.ReadsWord.announce (reads : behaviour.ReadsWord words value)
    (operation : Operation) : (Behaviour.announce operation behaviour).ReadsWord words value :=
  fun cursor ready => (reads cursor ready).announce operation

/-- A repetition reads all words up to the rest. -/
theorem Behaviour.ReadsWord.repeatFrom (reads : behaviour.ReadsWord words value) (rounds : Nat)
    (ready : cursor.Ready) (values : List A) :
    (Behaviour.repeatFrom behaviour rounds values).Ensures cursor
      (fun next all => ∃ found rest, words.Splits cursor.rest found rest ∧
        next = cursor.past (found.flatMap words.write) ∧
          all = values.reverse ++ found.map value) False := by
  induction rounds generalizing cursor values with
  | zero =>
      intro session
      trivial
  | succ rounds inductionHypothesis =>
      apply (reads cursor ready).repeatFrom_succ
      · rintro next _ ⟨word, more, begins, rfl, rfl⟩
        refine (inductionHypothesis (ready.past begins.written) (value word :: values)).imp ?_ id
        rintro last all ⟨found, rest, splits, rfl, rfl⟩
        rw [Cursor.rest_past begins.written] at splits
        refine ⟨word :: found, rest, .next begins splits, ?_, ?_⟩
        · rw [Cursor.past_past, List.flatMap_cons]
        · rw [List.reverse_cons, List.append_assoc, List.map_cons, List.singleton_append]
      · intro noWord
        exact ⟨[], cursor.rest, .none noWord, rfl, (List.append_nil _).symm⟩

end

end ParserCombinators
