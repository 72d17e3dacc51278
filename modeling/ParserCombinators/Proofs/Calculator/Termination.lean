/-
This file shows that every parse of an arithmetic program returns. An expression begins with a digit
or a parenthesis, so it calls no rule before it has moved.
-/

import ParserCombinators.Proofs.Calculator.Number
import ParserCombinators.Proofs.GrammarTermination

namespace ParserCombinators.Calculator

open ParserCombinators.Parser

variable {N : Type} {arithmetic : Arithmetic N}

section

variable {A : Type} {parser : Parser (signature N) A} {grammar : Grammar (signature N)}

/-- White space does not matter to whether a token may stay. -/
theorem nullable_token : (token parser).Nullable grammar ↔ parser.Nullable grammar := by
  rw [token, nullable_iff]
  show (pair _ _).Nullable grammar ↔ _
  rw [nullable_pair, and_iff_left (.optional _)]

theorem callsLeft_token {called : Rule} :
    (token parser).CallsLeft grammar called ↔ parser.CallsLeft grammar called := by
  rw [token, callsLeft_iff]
  show (pair _ _).CallsLeft grammar called ↔ _
  rw [callsLeft_pair]
  constructor
  · rintro (calls | ⟨_, calls⟩)
    · exact calls
    · exact (callsLeft_iff.mp (callsLeft_iff.mp calls)).elim
  · exact .inl

theorem not_nullable_literal {expected : String} (some : expected ≠ "") :
    ¬ (literal expected : Parser (signature N) String).Nullable grammar := by
  intro nullable
  exact some (nullable_iff.mp nullable)

theorem not_nullable_operator (first second : Operator) :
    ¬ (operator first second : Parser (signature N) Operator).Nullable grammar := by
  rw [operator, nullable_token, nullable_iff]
  show ¬ (choiceOf _).Nullable grammar
  rw [nullable_choiceOf]
  rintro ⟨alternative, member, nullable⟩
  have written (operator : Operator) : operator.symbol ≠ "" := by cases operator <;> decide
  rcases List.mem_pair.mp member with rfl | rfl
  · exact not_nullable_literal (written first) nullable
  · exact not_nullable_literal (written second) nullable

theorem not_nullable_number : ¬ (number arithmetic).Nullable grammar := by
  rw [number, nullable_token, nullable_iff]
  intro nullable
  have matchesEmpty : numberPattern.MatchesEmpty := nullable_iff.mp nullable
  exact finds_number.not_matchesEmpty someNumber_ne_some_nil matchesEmpty

theorem not_nullable_factor : ¬ (factor arithmetic).Nullable grammar := by
  rw [factor, nullable_iff]
  show ¬ (choiceOf _).Nullable grammar
  rw [nullable_choiceOf]
  rintro ⟨alternative, member, nullable⟩
  rcases List.mem_pair.mp member with rfl | rfl
  · exact not_nullable_number nullable
  · have opening := (nullable_between.mp nullable).1
    exact not_nullable_literal (by decide) (nullable_token.mp opening)

/-- A level begins with an operand. -/
theorem not_nullable_level {operator : Parser (signature N) Operator}
    {operand : Parser (signature N) N} (moves : ¬ operand.Nullable grammar) :
    ¬ (level arithmetic operator operand).Nullable grammar := by
  rw [level, nullable_iff]
  intro nullable
  exact moves (nullable_pair.mp nullable).1

theorem not_callsLeft_factor (called : Rule) :
    ¬ (factor arithmetic).CallsLeft grammar called := by
  rw [factor, callsLeft_iff]
  show ¬ (choiceOf _).CallsLeft grammar called
  rw [callsLeft_choiceOf]
  rintro ⟨alternative, member, calls⟩
  rcases List.mem_pair.mp member with rfl | rfl
  · rw [number, callsLeft_token] at calls
    exact (callsLeft_iff.mp (callsLeft_iff.mp calls)).elim
  · have moves : ¬ (token (literal "(") : Parser (signature N) String).Nullable grammar :=
      fun nullable => not_nullable_literal (by decide) (nullable_token.mp nullable)
    rcases callsLeft_between.mp calls with opening | ⟨nullable, _⟩ | ⟨nullable, _⟩
    · exact (callsLeft_iff.mp (callsLeft_token.mp opening)).elim
    · exact moves nullable
    · exact moves nullable

theorem not_callsLeft_level {operator : Parser (signature N) Operator}
    {operand : Parser (signature N) N} {called : Rule} (moves : ¬ operand.Nullable grammar)
    (noCall : ¬ operand.CallsLeft grammar called) :
    ¬ (level arithmetic operator operand).CallsLeft grammar called := by
  rw [level, callsLeft_iff]
  intro calls
  rcases callsLeft_pair.mp calls with first | ⟨nullable, _⟩
  · exact noCall first
  · exact moves nullable

theorem productive_token (productive : parser.Productive grammar) :
    (token parser).Productive grammar :=
  ⟨trivial, productive_pair.mpr ⟨productive, trivial, trivial⟩⟩

theorem productive_operator (first second : Operator) :
    (operator first second : Parser (signature N) Operator).Productive grammar := by
  refine productive_token ⟨trivial, productive_choiceOf.mpr fun alternative member => ?_⟩
  rcases List.mem_pair.mp member with rfl | rfl
  · trivial
  · trivial

theorem productive_factor : (factor arithmetic).Productive grammar := by
  refine ⟨trivial, productive_choiceOf.mpr fun alternative member => ?_⟩
  rcases List.mem_pair.mp member with rfl | rfl
  · exact productive_token ⟨trivial, trivial⟩
  · have symbols (symbol : String) :
        (token (literal symbol) : Parser (signature N) String).Productive grammar :=
      productive_token trivial
    exact productive_between.mpr ⟨symbols "(", trivial, symbols ")"⟩

/-- Each round of a level reads an operator. -/
theorem productive_level {first second : Operator} {operand : Parser (signature N) N}
    (productive : operand.Productive grammar) :
    (level arithmetic (operator first second) operand).Productive grammar := by
  have rounds : ¬ (pair (operator first second) operand).Nullable grammar := by
    rw [nullable_pair]
    exact fun nullable => not_nullable_operator first second nullable.1
  have steps : (Parser.many (pair (operator first second) operand)).Productive grammar :=
    ⟨rounds, productive_pair.mpr ⟨productive_operator first second, productive⟩⟩
  exact ⟨trivial, productive_pair.mpr ⟨productive, steps⟩⟩

theorem not_nullable_expression : ¬ (expression arithmetic).Nullable grammar :=
  not_nullable_level (not_nullable_level not_nullable_factor)

theorem not_callsLeft_expression (called : Rule) :
    ¬ (expression arithmetic).CallsLeft grammar called := by
  have product : ¬ (term arithmetic).CallsLeft grammar called :=
    not_callsLeft_level not_nullable_factor (not_callsLeft_factor called)
  exact not_callsLeft_level (not_nullable_level not_nullable_factor) product

theorem productive_expression : (expression arithmetic).Productive grammar :=
  productive_level (productive_level productive_factor)

/-- Each round of a program reads an expression. -/
theorem productive_program : (program arithmetic).Productive grammar := by
  have items : (sepBy (token (literal ";")) (expression arithmetic)).Productive grammar :=
    ⟨fun nullable => not_nullable_expression nullable.2, productive_token trivial,
      productive_expression⟩
  exact ⟨trivial, productive_pair.mpr ⟨⟨trivial, trivial⟩, items⟩⟩

end

/-- No rule is called on the left, so all calls have the lowest rank. -/
def ranking (arithmetic : Arithmetic N) : (grammar arithmetic).Ranking 1 where
  rank _ := 0
  bounded _ := Nat.one_pos
  decreases := by
    intro rule called calls
    cases rule
    exact (not_callsLeft_expression called calls).elim

/-- There are no plain functions in an expression. -/
theorem lawful_expression (arithmetic : Arithmetic N) : (expression arithmetic).Lawful := by
  simp [expression, term, factor, level, operator, number, token, literal, whiteSpace, choiceOf,
    between, pair, Lawful, Everywhere, FunctionKeepsLaw, Fin.forall_fin_succ]

theorem lawful_program (arithmetic : Arithmetic N) : (program arithmetic).Lawful := by
  have separators : (token (literal ";") : Parser (signature N) String).Lawful := by
    simp [token, literal, whiteSpace, pair, Lawful, Everywhere, FunctionKeepsLaw,
      Fin.forall_fin_succ]
  have items : (sepBy (token (literal ";")) (expression arithmetic)).Lawful :=
    ⟨trivial, separators, lawful_expression arithmetic⟩
  exact ⟨trivial, trivial, trivial,
    Fin.cases ⟨trivial, trivial⟩ (Fin.cases items fun part => part.elim0)⟩

/-- The fuel of a program is enough for every text whose length is a machine word. -/
theorem readProgram_returned (arithmetic : Arithmetic N) {text : String}
    (addressable : (Cursor.ofText text).length < Cursor.indexBound) :
    (readProgram arithmetic text).Returned := by
  have grammarLawful : (grammar arithmetic).Lawful := by
    intro rule
    cases rule
    exact lawful_expression arithmetic
  have productive : ∀ rule, (grammar arithmetic rule).Productive (grammar arithmetic) := by
    intro rule
    cases rule
    exact productive_expression
  have valid : (Cursor.ofText text).Valid := (Cursor.ready_start addressable).toValid
  have safe := Grammar.outcome_safe grammarLawful (lawful_program arithmetic) (fuel text) _ valid
    (.initial ())
  have finishes := Grammar.outcome_finishes grammarLawful productive Nat.one_pos
    (ranking arithmetic) (lawful_program arithmetic) productive_program (fuel text)
  apply safe.returned
  have enough : text.length * 1 + 1 < fuel text := by
    rw [fuel]
    omega
  apply finishes text.length 1 (fun _ _ => Nat.one_pos) enough _ valid
  rw [Cursor.rest_ofText, String.length_toList]
  exact Nat.lt_succ_self _

end ParserCombinators.Calculator
