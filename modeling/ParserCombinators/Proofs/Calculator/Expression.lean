/-
This file shows that factors and expressions are recognized. Factors contain expressions, so this
goes by induction on the fuel of the rule.
-/

import ParserCombinators.Proofs.Calculator.Recognition

namespace ParserCombinators.Calculator

open ParserCombinators.Parser ParserCombinators.Pattern ParserCombinators.Text

variable {N : Type} {arithmetic : Arithmetic N}
  {call : (rule : Rule) → Behaviour .text Unit ((signature N).result rule)} {fuel : Nat}
  {cursor : Cursor .text}

/-- The derived number is the longest one. -/
theorem someNumber_of_mayEnd {number space more : List Char} (isNumber : IsNumber number)
    (isSpace : IsSpace space) (mayEnd : Phrase.factor.MayEnd more) :
    someNumber (number ++ (space ++ more)) = some number := by
  apply someNumber_append isNumber
  intro character member
  cases space with
  | nil => exact (Phrase.not_mem_ends (mayEnd character member)).2
  | cons first rest =>
      have white : isWhiteSpace character = true := by
        rw [← Option.some.inj member]
        exact isSpace first List.mem_cons_self
      constructor
      · cases digit : isAsciiDigit character with
        | false => rfl
        | true =>
            rw [not_isWhiteSpace_of_isAsciiDigit digit] at white
            cases white
      · rintro rfl
        cases white

/-- An expression in parentheses is no number. -/
theorem refuses_number {text : List Char} (ready : cursor.Ready)
    (unread : cursor.rest = '(' :: text) :
    ((number arithmetic).behaviour call fuel).Ensures cursor (fun _ _ => False) True := by
  refine (ensures_number ready arithmetic).imp ?_ fun _ => trivial
  rintro next value ⟨digits, _, same, _⟩
  rw [unread] at same
  cases same

theorem sound_number (ready : cursor.Ready) :
    ((number arithmetic).behaviour call fuel).Ensures cursor
      (fun next value => ∃ consumed more tree, cursor.rest = consumed ++ more ∧
        next = cursor.past consumed ∧ Derives .factor consumed tree ∧
          tree.value arithmetic = some value) True := by
  refine (ensures_number ready arithmetic).imp ?_ fun _ => trivial
  rintro next value ⟨digits, text, same, unread, known, rfl⟩
  exact ⟨_, _, _, rest_after_symbol unread, rfl,
    .number (isNumber_of_someNumber same) (isSpace_longestRun text), known⟩

theorem complete_number {number space more : List Char} {value : N} (ready : cursor.Ready)
    (unread : cursor.rest = (number ++ space) ++ more) (isNumber : IsNumber number)
    (isSpace : IsSpace space)
    (known : arithmetic.reader.read (String.ofList number) = some value)
    (mayEnd : Phrase.factor.MayEnd more) :
    ((Calculator.number arithmetic).behaviour call fuel).Ensures cursor
      (fun next found => next = cursor.past (number ++ space) ∧ found = value) False := by
  rw [List.append_assoc] at unread
  have whole := someNumber_of_mayEnd isNumber isSpace mayEnd
  rw [← unread] at whole
  refine (ensures_number ready arithmetic).imp ?_ ?_
  · rintro next found ⟨digits, text, same, behind, accepted, rfl⟩
    rw [whole, Option.some.injEq] at same
    subst same
    have left := List.append_cancel_left (behind.symm.trans unread)
    rw [known, Option.some.injEq] at accepted
    rw [left, mayEnd.longestRun isSpace]
    exact ⟨rfl, accepted.symm⟩
  · intro refused
    rw [refused number whole] at known
    cases known

/-- The parser of an expression in parentheses. -/
def parenthesized : Parser (signature N) N :=
  between (token (literal "(")) (token (literal ")")) (rule Rule.expression)

theorem factor_eq (arithmetic : Arithmetic N) :
    factor arithmetic = label "factor" (choiceOf [number arithmetic, parenthesized]) := rfl

theorem sound_parenthesized (recognizes : Recognizes arithmetic (.level .sum) (call .expression))
    (ready : cursor.Ready) :
    ((parenthesized : Parser (signature N) N).behaviour call fuel).Ensures cursor
      (fun next value => ∃ consumed more tree, cursor.rest = consumed ++ more ∧
        next = cursor.past consumed ∧ Derives .factor consumed tree ∧
          tree.value arithmetic = some value) True := by
  apply ensures_between ((ensures_symbol ready "(").imp (fun _ _ => id) fun _ => trivial)
  · rintro next ⟨text, unread, rfl⟩
    exact (recognizes.sound_after ready unread).announce .lazy
  rintro next value ⟨before, inner, more, tree, isSpace, unread, rfl, derives, known⟩
  refine (ensures_symbol (ready.past unread) ")").imp ?_ fun _ => trivial
  rintro last _ ⟨text, behind, rfl⟩
  rw [Cursor.rest_past unread] at behind
  refine ⟨'(' :: before ++ inner ++ ')' :: longestRun .whiteSpace text,
    afterRun .whiteSpace text, tree, ?_, ?_,
    .parentheses isSpace derives (isSpace_longestRun text), known⟩
  · have whole := longestRun_append_afterRun .whiteSpace text
    rw [unread, behind]
    simp [whole]
  · rw [Cursor.past_past]
    rfl

/-- A derived expression in parentheses is read with all white space behind it. -/
theorem ensures_parenthesized
    (recognizes : Recognizes arithmetic (.level .sum) (call .expression)) (ready : cursor.Ready)
    {before inner more : List Char} {tree : Tree} {value : N}
    (unread : cursor.rest = '(' :: before ++ inner ++ ')' :: more) (isSpace : IsSpace before)
    (derives : Derives (.level .sum) inner tree) (known : tree.value arithmetic = some value) :
    ((parenthesized : Parser (signature N) N).behaviour call fuel).Ensures cursor
      (fun next found => next =
        cursor.past ('(' :: before ++ inner ++ ')' :: longestRun .whiteSpace more) ∧
          found = value) False := by
  have opening : cursor.rest = "(".toList ++ (before ++ (inner ++ ')' :: more)) := by
    rw [unread]
    simp
  have split : cursor.rest = ("(".toList ++ before ++ inner) ++ ')' :: more := unread
  have skipped := longestRun_before isSpace derives nofun (')' :: more)
  have closes : (Phrase.level .sum).MayEnd (')' :: more) := by
    rintro _ ⟨⟩
    exact List.mem_cons_self
  apply ensures_between (ensures_symbol_of_rest ready opening skipped)
  · rintro next rfl
    exact (recognizes.complete_after ready split derives known closes).announce .lazy
  · rintro next found ⟨rfl, rfl⟩
    have closing : (cursor.past ("(".toList ++ before ++ inner)).rest = ")".toList ++ more :=
      Cursor.rest_past split
    refine (ensures_symbol (ready.past split) ")").imp ?_ ?_
    · rintro last _ ⟨text, behind, rfl⟩
      have same := List.append_cancel_left (behind.symm.trans closing)
      rw [same, Cursor.past_past]
      exact ⟨rfl, rfl⟩
    · intro refused
      exact refused ⟨more, closing.symm⟩

theorem complete_parenthesized
    (recognizes : Recognizes arithmetic (.level .sum) (call .expression)) (ready : cursor.Ready)
    {before inner after more : List Char} {tree : Tree} {value : N}
    (unread : cursor.rest = ('(' :: before ++ inner ++ ')' :: after) ++ more)
    (isSpace : IsSpace before) (derives : Derives (.level .sum) inner tree)
    (isSpaceAfter : IsSpace after) (known : tree.value arithmetic = some value)
    (mayEnd : Phrase.factor.MayEnd more) :
    ((parenthesized : Parser (signature N) N).behaviour call fuel).Ensures cursor
      (fun next found => next = cursor.past ('(' :: before ++ inner ++ ')' :: after) ∧
        found = value) False := by
  have split : cursor.rest = '(' :: before ++ inner ++ ')' :: (after ++ more) := by
    rw [unread]
    simp
  refine (ensures_parenthesized recognizes ready split isSpace derives known).imp ?_ id
  rw [mayEnd.longestRun isSpaceAfter]
  exact fun _ _ => id

/-- A factor is recognized when the rule of expressions is. -/
theorem recognizes_factor (recognizes : Recognizes arithmetic (.level .sum) (call .expression)) :
    Recognizes arithmetic .factor ((factor arithmetic).behaviour call fuel) where
  sound := by
    intro cursor ready
    rw [factor_eq]
    refine Behaviour.Ensures.label ?_ "factor"
    exact ensures_choiceOf_two (sound_number ready) fun _ => sound_parenthesized recognizes ready
  complete := by
    intro cursor consumed more tree value ready unread derives known mayEnd
    rw [factor_eq]
    refine Behaviour.Ensures.label ?_ "factor"
    cases derives with
    | number isNumber isSpace =>
        apply ensures_choiceOf_two (complete_number ready unread isNumber isSpace known mayEnd)
        exact False.elim
    | parentheses isSpace inner isSpaceAfter =>
        have refuses : ((number arithmetic).behaviour call fuel).Ensures cursor
            (fun _ _ => False) True := refuses_number ready unread
        apply ensures_choiceOf_two (refuses.imp (fun _ _ => False.elim) id)
        intro _
        exact complete_parenthesized recognizes ready unread isSpace inner isSpaceAfter known mayEnd

/-- An expression is a sum of products of factors. -/
theorem recognizes_expression
    (recognizes : Recognizes arithmetic (.level .sum) (call .expression)) :
    Recognizes arithmetic (.level .sum) ((expression arithmetic).behaviour call fuel) := by
  have product : Recognizes arithmetic (.level .product) ((term arithmetic).behaviour call fuel) :=
    recognizes_level rfl (recognizes_factor recognizes)
  exact recognizes_level rfl product

/-- The rule of expressions recognizes them however much fuel there is. -/
theorem recognizes_call (arithmetic : Arithmetic N) (fuel : Nat) :
    Recognizes arithmetic (.level .sum) ((grammar arithmetic).call fuel .expression) := by
  induction fuel with
  | zero =>
      constructor
      · intro cursor _ session
        trivial
      · intro cursor consumed more tree value _ _ _ _ _ session
        trivial
  | succ fuel inductionHypothesis => exact recognizes_expression inductionHypothesis

end ParserCombinators.Calculator
