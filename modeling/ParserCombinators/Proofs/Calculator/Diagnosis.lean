/-
This file says how an expression fails. The failure is a tower with one level for each parenthesis
that is opened in front of the place where something is missing: either a factor or a closing
parenthesis.
-/

import Mathlib.Data.List.Chain
import ParserCombinators.Proofs.Approximation
import ParserCombinators.Proofs.Calculator.Expression
import ParserCombinators.Proofs.Failure.Explanation
import ParserCombinators.Proofs.Failure.Parts
import ParserCombinators.Proofs.Failure.Regrouping
import ParserCombinators.Proofs.Separation

namespace ParserCombinators.Calculator

open ParserCombinators.Parser ParserCombinators.Pattern ParserCombinators.Text

/-- No number begins at this cursor. -/
def numberFailure (cursor : Cursor .text) : Failure :=
  .leaf ⟨.pattern, quoteText cursor.found ++ " does not match /" ++ numberPattern.source ++ "/",
    some cursor.index⟩

/-- The symbol is not at this cursor. -/
def symbolFailure (symbol : String) (cursor : Cursor .text) : Failure :=
  .leaf ⟨.literal, "expected " ++ quoteText symbol ++ " but found " ++ quoteText cursor.found,
    some cursor.index⟩

/-- A factor is neither a number nor an expression in parentheses. The second alternative fails for
the inner reason. -/
def levelFailure (cursor : Cursor .text) (inner : Failure) : Failure :=
  .single ⟨.rule "factor", "expected factor", some cursor.index⟩
    (.many ⟨.choice, "no alternative matched at index " ++ toString cursor.index,
      some cursor.index⟩ [numberFailure cursor, inner])

/-- One level stands on the other, and the bottom is the last reason. -/
def tower (levels : List (Cursor .text)) (bottom : Failure) : Failure :=
  levels.foldr levelFailure bottom

/-- A parenthesis is opened at the outer cursor, and the inner one stands behind it and behind white
space. -/
def Opens (outer inner : Cursor .text) : Prop :=
  ∃ space more, IsSpace space ∧ outer.rest = '(' :: space ++ more ∧
    inner = outer.past ('(' :: space)

/-- Neither a number nor a parenthesis begins at this cursor. -/
structure LacksFactor (cursor : Cursor .text) : Prop where
  noDigit : ∀ character ∈ cursor.rest.head?, isAsciiDigit character = false
  noParenthesis : cursor.rest.head? ≠ some '('

/-- A parenthesis is opened at this cursor, and an expression is read behind it, but where the
expression ends no parenthesis is closed. -/
structure Unclosed {N : Type} (arithmetic : Arithmetic N) (cursor close : Cursor .text) : Prop where
  reads : ∃ inner value, Opens cursor inner ∧ ∀ session,
    (grammar arithmetic).Succeeds (expression arithmetic) inner session close value
  later : cursor.index < close.index
  noParenthesis : close.rest.head? ≠ some ')'

/-- The reason why the last level fails. -/
inductive Breaks {N : Type} (arithmetic : Arithmetic N) (last : Cursor .text) : Failure → Prop
  | missing (lacks : LacksFactor last) : Breaks arithmetic last (symbolFailure "(" last)
  | unclosed {close : Cursor .text} (unclosed : Unclosed arithmetic last close) :
      Breaks arithmetic last (symbolFailure ")" close)

/-- From the cursor on parentheses are opened one in another, and at the last level the parse
breaks. -/
structure Diagnosed {N : Type} (arithmetic : Arithmetic N) (cursor : Cursor .text)
    (others : List (Cursor .text)) (last : Cursor .text) (bottom : Failure) : Prop where
  nested : (cursor :: others).IsChain Opens
  ends : (cursor :: others).getLast? = some last
  breaks : Breaks arithmetic last bottom

section

variable {N A B : Type} {arithmetic : Arithmetic N}
  {call : (rule : Rule) → Behaviour .text Unit ((signature N).result rule)} {fuel : Nat}
  {cursor : Cursor .text} {session final : Session Unit} {reason : Failure}

theorem read_of_leaf_failure {wanted : Leaf .text A}
    (failed : (Behaviour.leaf wanted : Behaviour .text Unit A) cursor session =
      .failure reason final) : wanted.read cursor = .failure reason := by
  rw [Behaviour.leaf] at failed
  cases read : wanted.read cursor with
  | fault problem =>
      rw [read] at failed
      cases failed
  | success next value =>
      rw [read] at failed
      cases failed
  | failure cause =>
      rw [read] at failed
      cases failed
      rfl

theorem read_literal_eq_failure {expected : String}
    (failed : (Leaf.literal expected).read cursor = .failure reason) :
    reason = symbolFailure expected cursor ∧ ¬ expected.toList <+: cursor.rest := by
  rw [Leaf.read, Leaf.readLiteral] at failed
  split at failed
  next => exact absurd failed (Reading.consume_ne_failure _ _ _ _)
  next absent =>
    cases failed
    exact ⟨rfl, fun begins => absent (List.isPrefixOf_iff_prefix.mpr begins)⟩

theorem read_number_eq_failure
    (failed : (Leaf.pattern numberPattern).read cursor = .failure reason) :
    reason = numberFailure cursor := by
  rw [Leaf.read, Leaf.readPattern] at failed
  split at failed
  next => exact absurd failed (Reading.consume_ne_failure _ _ _ _)
  next =>
    cases failed
    rfl

/-- White space never keeps a token from being read. -/
theorem failure_of_token {parser : Parser (signature N) A}
    (failed : (token parser).behaviour call fuel cursor session = .failure reason final) :
    ∃ begun, parser.behaviour call fuel cursor begun = .failure reason final := by
  rcases Outcome.andThen_eq_failure failed with ⟨_, _, _, _, impossible⟩ | failed
  · cases impossible
  replace failed : (pair parser (Parser.optional whiteSpace)).behaviour call fuel cursor session =
    .failure reason final := failed
  rw [behaviour_pair] at failed
  rcases Outcome.andThen_eq_failure failed with ⟨middle, value, later, _, skipped⟩ | failed
  · rcases Outcome.andThen_eq_failure skipped with ⟨_, _, _, _, impossible⟩ | skipped
    · cases impossible
    · obtain ⟨_, _, _, impossible⟩ := Outcome.orElse_eq_failure skipped
      cases impossible
  · exact ⟨_, failed⟩

theorem failure_of_symbol {symbol : String}
    (failed : (token (literal symbol) : Parser (signature N) String).behaviour call fuel cursor
      session = .failure reason final) :
    reason = symbolFailure symbol cursor ∧ ¬ symbol.toList <+: cursor.rest := by
  obtain ⟨begun, failed⟩ := failure_of_token failed
  exact read_literal_eq_failure (read_of_leaf_failure failed)

/-- If all numbers have a value, then only their pattern fails. -/
theorem failure_of_number (ready : cursor.Ready)
    (reads : ∀ number, IsNumber number →
      (arithmetic.reader.read (String.ofList number)).isSome = true)
    (failed : (number arithmetic).behaviour call fuel cursor session = .failure reason final) :
    reason = numberFailure cursor ∧ someNumber cursor.rest = none := by
  obtain ⟨begun, failed⟩ := failure_of_token failed
  have found := ensures_numberPattern ready begun
  rcases Outcome.andThen_eq_failure failed with ⟨next, text, later, read, unreadable⟩ | failed
  · obtain ⟨digits, _, same, _, rfl, _⟩ := found.of_success read
    have isNumber := isNumber_of_someNumber same
    obtain ⟨value, known⟩ := Option.isSome_iff_exists.mp (reads digits isNumber)
    rw [known] at unreadable
    cases unreadable
  · exact ⟨read_number_eq_failure (read_of_leaf_failure failed), found.of_failure failed⟩

/-- An operator fails when both symbols are missing, since each symbol is the text of an
operator. -/
theorem failure_of_operator (ready : cursor.Ready) {first second : Operator}
    (failed : (operator first second : Parser (signature N) Operator).behaviour call fuel cursor
      session = .failure reason final) :
    reason = Behaviour.choiceFailure cursor.index
      [symbolFailure first.symbol cursor, symbolFailure second.symbol cursor] := by
  obtain ⟨begun, failed⟩ := failure_of_token failed
  rcases Outcome.andThen_eq_failure failed with ⟨next, text, later, read, unreadable⟩ | failed
  · obtain ⟨found, _, rfl, _⟩ := (ensures_symbols ready first second begun).of_success read
    have known : Operator.reader.read found.symbol = some found := found.read_symbol
    rw [known] at unreadable
    cases unreadable
  · replace failed : (choiceOf [literal first.symbol, literal second.symbol] :
      Parser (signature N) String).behaviour call fuel cursor begun =
        .failure reason final := failed
    rw [behaviour_choiceOf] at failed
    obtain ⟨noFirst, _, firstFailed, others⟩ := Outcome.orElse_eq_failure failed
    obtain ⟨noSecond, _, secondFailed, exhausted⟩ := Outcome.orElse_eq_failure others
    cases exhausted
    rw [(read_literal_eq_failure (read_of_leaf_failure firstFailed)).1,
      (read_literal_eq_failure (read_of_leaf_failure secondFailed)).1]
    rfl

/-- A level only fails with its first operand. -/
theorem failure_of_level {operators : Parser (signature N) Operator}
    {operand : Parser (signature N) N}
    (failed : (level arithmetic operators operand).behaviour call fuel cursor session =
      .failure reason final) :
    ∃ begun, operand.behaviour call fuel cursor begun = .failure reason final := by
  rcases Outcome.andThen_eq_failure failed with ⟨_, _, _, _, impossible⟩ | failed
  · cases impossible
  replace failed : (pair operand (many (pair operators operand))).behaviour call fuel cursor
    session = .failure reason final := failed
  rw [behaviour_pair] at failed
  rcases Outcome.andThen_eq_failure failed with ⟨middle, value, later, _, repeated⟩ | failed
  · rcases Outcome.andThen_eq_failure repeated with ⟨_, _, _, _, impossible⟩ | repeated
    · cases impossible
    · exact absurd repeated
        (Behaviour.recordCount_repeatFrom_ne_failure _ _ _ _ _ _ reason final)
  · exact ⟨_, failed⟩

/-- A factor fails when both alternatives fail. -/
theorem failure_of_factor
    (failed : (factor arithmetic).behaviour call fuel cursor session = .failure reason final) :
    ∃ first second, reason = Behaviour.ruleFailure "factor" cursor.index
        (Behaviour.choiceFailure cursor.index [first, second]) ∧
      (∃ begun later, (number arithmetic).behaviour call fuel cursor begun =
        .failure first later) ∧
      ∃ begun later, (parenthesized : Parser (signature N) N).behaviour call fuel cursor begun =
        .failure second later := by
  rw [factor_eq] at failed
  obtain ⟨_, failed⟩ := Outcome.mapSession_eq_failure failed
  obtain ⟨cause, _, chosen, labelled⟩ := Outcome.orElse_eq_failure failed
  cases labelled
  replace chosen : (choiceOf [number arithmetic, parenthesized]).behaviour call fuel cursor _ =
    .failure cause _ := chosen
  rw [behaviour_choiceOf] at chosen
  obtain ⟨first, later, isNumber, others⟩ := Outcome.orElse_eq_failure chosen
  obtain ⟨second, last, isParenthesized, exhausted⟩ := Outcome.orElse_eq_failure others
  cases exhausted
  exact ⟨first, second, rfl, ⟨_, _, isNumber⟩, ⟨_, _, isParenthesized⟩⟩

theorem head_ne_of_not_begins {character : Char} {text : List Char}
    (absent : ¬ [character] <+: text) : text.head? ≠ some character := by
  intro begins
  obtain ⟨others, rfl⟩ := List.head?_eq_some_iff.mp begins
  exact absent ⟨others, rfl⟩

/-- An expression in parentheses fails at the opening parenthesis, or as the expression does, or at
the closing parenthesis. -/
theorem failure_of_parenthesized (ready : cursor.Ready)
    (failed : (parenthesized : Parser (signature N) N).behaviour call fuel cursor session =
      .failure reason final) :
    (cursor.rest.head? ≠ some '(' ∧ reason = symbolFailure "(" cursor) ∨
    ∃ inner, Opens cursor inner ∧ inner.Ready ∧
      ((∃ begun later, call .expression inner begun = .failure reason later) ∨
      ∃ begun close value later, call .expression inner begun = .success close value later ∧
        close.rest.head? ≠ some ')' ∧ reason = symbolFailure ")" close) := by
  rw [parenthesized, behaviour_between] at failed
  rcases Outcome.andThen_eq_failure failed with ⟨inner, _, begun, opened, behind⟩ | failed
  · obtain ⟨text, unread, rfl⟩ := (ensures_symbol ready "(" _).of_success opened
    have split : cursor.rest = '(' :: longestRun .whiteSpace text ++ afterRun .whiteSpace text :=
      rest_after_symbol unread
    refine .inr ⟨_, ⟨_, _, isSpace_longestRun text, split, rfl⟩, ready.past split, ?_⟩
    rcases Outcome.andThen_eq_failure behind with ⟨close, value, later, read, closing⟩ | failed
    · rcases Outcome.andThen_eq_failure closing with ⟨_, _, _, _, impossible⟩ | failed
      · cases impossible
      · obtain ⟨rfl, absent⟩ := failure_of_symbol failed
        exact .inr ⟨_, close, value, later, read, head_ne_of_not_begins absent, rfl⟩
    · exact .inl ⟨_, final, failed⟩
  · obtain ⟨rfl, absent⟩ := failure_of_symbol failed
    exact .inl ⟨head_ne_of_not_begins absent, rfl⟩

theorem noDigit_of_someNumber_eq_none {text : List Char} (none : someNumber text = none) :
    ∀ character ∈ text.head?, isAsciiDigit character = false := by
  intro character begins
  obtain ⟨others, rfl⟩ := List.head?_eq_some_iff.mp begins
  cases digit : isAsciiDigit character with
  | false => rfl
  | true =>
      rw [← CharacterClass.contains_asciiDigit] at digit
      rw [someNumber, longestRun_cons digit, if_neg (List.cons_ne_nil _ _)] at none
      cases none

theorem Diagnosed.here {bottom : Failure} (breaks : Breaks arithmetic cursor bottom) :
    Diagnosed arithmetic cursor [] cursor bottom :=
  ⟨.singleton _, rfl, breaks⟩

theorem Diagnosed.inside {inner last : Cursor .text} {others : List (Cursor .text)}
    {bottom : Failure} (opens : Opens cursor inner)
    (diagnosed : Diagnosed arithmetic inner others last bottom) :
    Diagnosed arithmetic cursor (inner :: others) last bottom :=
  ⟨.cons_cons opens diagnosed.nested, diagnosed.ends, diagnosed.breaks⟩

theorem Opens.index_lt {outer inner : Cursor .text} (opens : Opens outer inner) :
    outer.index < inner.index := by
  obtain ⟨space, _, _, _, rfl⟩ := opens
  have positive := Medium.width_pos .text '('
  show outer.index < outer.index + (Medium.width .text '(' + Medium.measure .text space)
  omega

end

variable {N : Type} {arithmetic : Arithmetic N} {cursor : Cursor .text}
  {session final : Session Unit} {reason : Failure}

theorem succeeds_of_call {fuel : Nat} {next : Cursor .text} {value : N}
    (read : (grammar arithmetic).call fuel .expression cursor session = .success next value final)
    (session' : Session Unit) :
    (grammar arithmetic).Succeeds (expression arithmetic) cursor session' next value := by
  cases fuel with
  | zero => cases read
  | succ fuel => exact Grammar.Succeeds.withSession ⟨fuel, final, read⟩ rfl

/-- The rule of expressions only fails with a tower. This goes by induction on the fuel, since each
level uses one unit. -/
theorem exists_diagnosed_of_call
    (reads : ∀ number, IsNumber number →
      (arithmetic.reader.read (String.ofList number)).isSome = true) {fuel : Nat}
    (ready : cursor.Ready)
    (failed : (grammar arithmetic).call fuel .expression cursor session = .failure reason final) :
    ∃ others last bottom, Diagnosed arithmetic cursor others last bottom ∧
      reason = tower (cursor :: others) bottom := by
  induction fuel generalizing cursor session reason final with
  | zero => cases failed
  | succ fuel inductionHypothesis =>
      obtain ⟨_, ofTerm⟩ := failure_of_level failed
      obtain ⟨_, ofFactor⟩ := failure_of_level ofTerm
      obtain ⟨first, second, rfl, ⟨_, _, ofNumber⟩, _, _, ofParenthesized⟩ :=
        failure_of_factor ofFactor
      obtain ⟨rfl, noNumber⟩ := failure_of_number ready reads ofNumber
      -- This level is the last one, unless the expression behind the parenthesis fails by itself.
      rcases failure_of_parenthesized ready ofParenthesized with
        ⟨noParenthesis, rfl⟩ | ⟨inner, opens, innerReady, ⟨_, _, ofInner⟩ | unclosed⟩
      · exact ⟨_, _, _, .here (.missing ⟨noDigit_of_someNumber_eq_none noNumber, noParenthesis⟩),
          rfl⟩
      · obtain ⟨others, last, bottom, diagnosed, rfl⟩ := inductionHypothesis innerReady ofInner
        exact ⟨_, _, _, .inside opens diagnosed, rfl⟩
      · obtain ⟨begun, close, value, later, read, noParenthesis, rfl⟩ := unclosed
        obtain ⟨consumed, _, _, _, rfl, _⟩ :=
          ((recognizes_call arithmetic fuel).sound innerReady begun).of_success read
        have forward : cursor.index < (inner.past consumed).index :=
          Nat.lt_of_lt_of_le opens.index_lt (Nat.le_add_right _ _)
        exact ⟨_, _, _, .here (.unclosed
          ⟨⟨inner, value, opens, succeeds_of_call read⟩, forward, noParenthesis⟩), rfl⟩

theorem leaves_tower (levels : List (Cursor .text)) (bottom : Failure) :
    (tower levels bottom).leaves = levels.map numberFailure ++ bottom.leaves := by
  induction levels with
  | nil => rfl
  | cons level levels inductionHypothesis =>
      show Failure.leaves (numberFailure level) ++ ((tower levels bottom).leaves ++ []) = _
      rw [inductionHypothesis, List.append_nil]
      rfl

/-- What holds of the failures of all levels and of the bottom holds everywhere in a tower. -/
theorem noCustom_of_mem_parts_tower {levels : List (Cursor .text)} {bottom : Failure}
    (bottomHolds : ∀ part ∈ bottom.parts, ∀ name, part.kind ≠ .custom name) :
    ∀ part ∈ (tower levels bottom).parts, ∀ name, part.kind ≠ .custom name := by
  induction levels with
  | nil => exact bottomHolds
  | cons level levels inductionHypothesis =>
      intro part member
      rcases Failure.mem_parts_iff.mp member with rfl | ⟨cause, isCause, member⟩
      · nofun
      · obtain rfl := List.mem_singleton.mp isCause
        rcases Failure.mem_parts_iff.mp member with rfl | ⟨cause, isCause, member⟩
        · nofun
        · rcases List.mem_pair.mp isCause with rfl | rfl
          · obtain rfl := List.mem_singleton.mp member
            nofun
          · exact inductionHypothesis part member

theorem further_of_opens {outer inner : Cursor .text} (opens : Opens outer inner) :
    (numberFailure outer).further (numberFailure inner) = numberFailure inner :=
  if_pos (decide_eq_true opens.index_lt)

/-- The pattern of an inner level got further than the patterns of all outer ones. -/
theorem foldl_further {others : List (Cursor .text)} {last : Cursor .text}
    (nested : (cursor :: others).IsChain Opens) (ends : (cursor :: others).getLast? = some last) :
    (others.map numberFailure).foldl Failure.further (numberFailure cursor) =
      numberFailure last := by
  induction others generalizing cursor with
  | nil =>
      cases ends
      rfl
  | cons inner others inductionHypothesis =>
      cases nested with
      | cons_cons opens nested =>
          rw [List.map_cons, List.foldl_cons, further_of_opens opens]
          exact inductionHypothesis nested ends

namespace Diagnosed

variable {others : List (Cursor .text)} {last : Cursor .text} {bottom : Failure}

theorem leaves_eq (diagnosed : Diagnosed arithmetic cursor others last bottom) :
    (tower (cursor :: others) bottom).leaves =
      (cursor :: others).map numberFailure ++ [bottom] := by
  rw [leaves_tower]
  cases diagnosed.breaks <;> rfl

theorem furthest_eq (diagnosed : Diagnosed arithmetic cursor others last bottom) :
    (tower (cursor :: others) bottom).furthest = (numberFailure last).further bottom := by
  rw [Failure.furthest, diagnosed.leaves_eq]
  show (others.map numberFailure ++ [bottom]).foldl Failure.further (numberFailure cursor) = _
  rw [List.foldl_append, foldl_further diagnosed.nested diagnosed.ends]
  rfl

theorem increasing (diagnosed : Diagnosed arithmetic cursor others last bottom) :
    ((cursor :: others).map Cursor.index).Pairwise (· < ·) := by
  rw [← List.isChain_iff_pairwise]
  exact List.isChain_map_of_isChain Cursor.index (fun _ _ => Opens.index_lt) diagnosed.nested

theorem noCustom (diagnosed : Diagnosed arithmetic cursor others last bottom) :
    ∀ part ∈ (tower (cursor :: others) bottom).parts, ∀ name, part.kind ≠ .custom name := by
  apply noCustom_of_mem_parts_tower
  intro part member
  cases diagnosed.breaks with
  | missing | unclosed =>
      obtain rfl := List.mem_singleton.mp member
      nofun

end Diagnosed

/-- When an expression fails, its failure is a tower. Each level lies at an opening parenthesis, and
the next one lies behind it and behind white space. At the last level either no factor begins, and
then the pattern of numbers got furthest there, or a parenthesis is opened and, behind an expression
that is read, it is not closed. Then the closing parenthesis got furthest. All texts of numbers and
of operators have a value, so nothing else fails anywhere. -/
theorem expression_failure_is_tower (ready : cursor.Ready)
    (fails : (grammar floatArithmetic).FailsWith (expression floatArithmetic) cursor session
      reason) :
    (∃ others last bottom, reason = tower (cursor :: others) bottom ∧
      (cursor :: others).IsChain Opens ∧ (cursor :: others).getLast? = some last ∧
      reason.leaves = (cursor :: others).map numberFailure ++ [bottom] ∧
      ((cursor :: others).map Cursor.index).Pairwise (· < ·) ∧
      (LacksFactor last ∧ bottom = symbolFailure "(" last ∧
          reason.furthest = numberFailure last ∨
        ∃ close, Unclosed floatArithmetic last close ∧ bottom = symbolFailure ")" close ∧
          reason.furthest = bottom)) ∧
    (∀ part ∈ reason.parts, ∀ name, part.kind ≠ .custom name) ∧
    ∀ next : Cursor .text, next.Ready → ∀ session' inner,
      ((grammar floatArithmetic).FailsWith (number floatArithmetic) next session' inner →
        inner = numberFailure next) ∧
      ∀ first second, (grammar floatArithmetic).FailsWith (operator first second) next session'
          inner →
        inner = Behaviour.choiceFailure next.index
          [symbolFailure first.symbol next, symbolFailure second.symbol next] := by
  have reads (digits : List Char) (isNumber : IsNumber digits) := isSome_readFloat isNumber
  obtain ⟨fuel, final, failed⟩ := fails
  replace failed : (grammar floatArithmetic).call (fuel + 1) .expression cursor session =
    .failure reason final := failed
  obtain ⟨others, last, bottom, diagnosed, rfl⟩ := exists_diagnosed_of_call reads ready failed
  refine ⟨⟨others, last, bottom, rfl, diagnosed.nested, diagnosed.ends, diagnosed.leaves_eq,
    diagnosed.increasing, ?_⟩, diagnosed.noCustom, ?_⟩
  · rw [diagnosed.furthest_eq]
    cases diagnosed.breaks with
    | missing lacks =>
        have tie : ¬ Failure.before (numberFailure last).position
            (symbolFailure "(" last).position = true :=
          fun before => Nat.lt_irrefl _ (of_decide_eq_true before)
        exact .inl ⟨lacks, rfl, if_neg tie⟩
    | @unclosed close unclosed =>
        exact .inr ⟨close, unclosed, rfl, if_pos (decide_eq_true unclosed.later)⟩
  · intro next nextReady session' inner
    constructor
    · rintro ⟨_, _, failed⟩
      exact (failure_of_number nextReady reads failed).1
    · rintro first second ⟨_, _, failed⟩
      exact failure_of_operator nextReady failed

/-- A text that only opens a parenthesis fails with a tower of two levels. -/
theorem open_parenthesis_failure_is_tower :
    (Cursor.ofText "(").Ready ∧ ∃ reason,
      (grammar floatArithmetic).FailsWith (expression floatArithmetic) (Cursor.ofText "(")
        (.initial ()) reason ∧
      reason.leaves.map Failure.position = [some 0, some 1, some 1] ∧
      ∃ others last bottom, reason = tower (Cursor.ofText "(" :: others) bottom ∧
        (Cursor.ofText "(" :: others).getLast? = some last ∧
        reason.leaves = (Cursor.ofText "(" :: others).map numberFailure ++ [bottom] := by
  have ready : (Cursor.ofText "(").Ready := Cursor.ready_start (by decide)
  have failure : ∃ reason final,
      (grammar floatArithmetic).outcome 3 (expression floatArithmetic) (Cursor.ofText "(")
        (.initial ()) = .failure reason final ∧
      reason.leaves.map Failure.position = [some 0, some 1, some 1] := ⟨_, _, by rfl, by rfl⟩
  obtain ⟨reason, final, failed, positions⟩ := failure
  have fails : (grammar floatArithmetic).FailsWith (expression floatArithmetic) (Cursor.ofText "(")
    (.initial ()) reason := ⟨3, final, failed⟩
  obtain ⟨others, last, bottom, isTower, _, ends, leaves, _⟩ :=
    (expression_failure_is_tower ready fails).1
  exact ⟨ready, reason, fails, positions, others, last, bottom, isTower, ends, leaves⟩

end ParserCombinators.Calculator
