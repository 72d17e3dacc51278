/-
This file shows that the parsers of factors, products and sums read exactly what the grammar
derives, with the values of the trees.
-/

import ParserCombinators.Proofs.Calculator.Token

namespace ParserCombinators.Calculator

open ParserCombinators.Parser ParserCombinators.Pattern ParserCombinators.Text

variable {N : Type}

/-- The parser reads only derived texts, and it reads every derived text that a phrase may end
behind. The value is the value of the tree. -/
structure Recognizes (arithmetic : Arithmetic N) (phrase : Phrase)
    (behaviour : Behaviour .text Unit N) : Prop where
  sound : ∀ {cursor : Cursor .text}, cursor.Ready → behaviour.Ensures cursor
    (fun next value => ∃ consumed more tree, cursor.rest = consumed ++ more ∧
      next = cursor.past consumed ∧ Derives phrase consumed tree ∧
        tree.value arithmetic = some value) True
  complete : ∀ {cursor : Cursor .text} {consumed more : List Char} {tree : Tree} {value : N},
    cursor.Ready → cursor.rest = consumed ++ more → Derives phrase consumed tree →
      tree.value arithmetic = some value → phrase.MayEnd more → behaviour.Ensures cursor
        (fun next found => next = cursor.past consumed ∧ found = value) False

variable {arithmetic : Arithmetic N}
  {call : (rule : Rule) → Behaviour .text Unit ((signature N).result rule)} {fuel : Nat}
  {cursor : Cursor .text}

theorem isSpace_longestRun (text : List Char) : IsSpace (longestRun .whiteSpace text) := by
  intro character member
  exact contains_of_mem_longestRun member

/-- A symbol with white space behind it, as the grammar has it. -/
theorem rest_after_symbol {symbol text : List Char} (unread : cursor.rest = symbol ++ text) :
    cursor.rest = (symbol ++ longestRun .whiteSpace text) ++ afterRun .whiteSpace text := by
  rw [List.append_assoc, longestRun_append_afterRun, unread]

section

variable {phrase : Phrase} {behaviour : Behaviour .text Unit N} {symbol : List Char}

/-- Behind a symbol and its white space a phrase is read. -/
theorem Recognizes.sound_after (recognizes : Recognizes arithmetic phrase behaviour)
    (ready : cursor.Ready) {text : List Char} (unread : cursor.rest = symbol ++ text) :
    behaviour.Ensures (cursor.past (symbol ++ longestRun .whiteSpace text))
      (fun next value => ∃ space inner more tree, IsSpace space ∧
        cursor.rest = (symbol ++ space ++ inner) ++ more ∧
          next = cursor.past (symbol ++ space ++ inner) ∧ Derives phrase inner tree ∧
            tree.value arithmetic = some value) True := by
  have split := rest_after_symbol unread
  refine (recognizes.sound (ready.past split)).imp ?_ id
  rintro next value ⟨inner, more, tree, behind, rfl, derives, known⟩
  rw [Cursor.rest_past split] at behind
  refine ⟨longestRun .whiteSpace text, inner, more, tree, isSpace_longestRun text, ?_, ?_, derives,
    known⟩
  · rw [split, behind]
    simp only [List.append_assoc]
  · rw [Cursor.past_past]

/-- Behind a symbol and its white space a derived phrase is read as a whole. -/
theorem Recognizes.complete_after (recognizes : Recognizes arithmetic phrase behaviour)
    (ready : cursor.Ready) {space inner more : List Char} {tree : Tree} {value : N}
    (unread : cursor.rest = (symbol ++ space ++ inner) ++ more)
    (derives : Derives phrase inner tree) (known : tree.value arithmetic = some value)
    (mayEnd : phrase.MayEnd more) :
    behaviour.Ensures (cursor.past (symbol ++ space))
      (fun next found => next = cursor.past (symbol ++ space ++ inner) ∧ found = value) False := by
  have split : cursor.rest = (symbol ++ space) ++ (inner ++ more) := by
    rw [unread, List.append_assoc]
  refine (recognizes.complete (ready.past split) (Cursor.rest_past split) derives known mayEnd).imp
    ?_ id
  rintro next found ⟨rfl, rfl⟩
  rw [Cursor.past_past]
  exact ⟨rfl, rfl⟩

end

theorem Level.operand_noSteps (level : Level) (other : Level) (left : Tree) :
    level.operand ≠ .steps other left := by
  cases level <;> nofun

theorem foldLeft_reverse_cons (start : N) (values : List (Operator × N)) (operator : Operator)
    (value : N) :
    foldLeft arithmetic (start, ((operator, value) :: values).reverse) =
      arithmetic.apply operator (foldLeft arithmetic (start, values.reverse)) value := by
  simp [foldLeft, List.foldl_append]

/-- Different operators have different symbols. -/
theorem Operator.symbol_append_inj {first second : Operator} {rest rest' : List Char}
    (same : first.symbol.toList ++ rest = second.symbol.toList ++ rest') :
    first = second ∧ rest = rest' := by
  cases first <;> cases second <;> simp_all [Operator.symbol]

section

variable {level : Level} {first second : Operator} {operand : Parser (signature N) N}

/-- One step reads an operator and an operand. -/
theorem sound_step (operators : level.operators = [first, second])
    (recognizes : Recognizes arithmetic level.operand (operand.behaviour call fuel))
    (ready : cursor.Ready) :
    ((pair (operator first second) operand).behaviour call fuel).Ensures cursor
      (fun next step => ∃ space text more right, step.1 ∈ level.operators ∧ IsSpace space ∧
        Derives level.operand text right ∧ right.value arithmetic = some step.2 ∧
          cursor.rest = (step.1.symbol.toList ++ space ++ text) ++ more ∧
            next = cursor.past (step.1.symbol.toList ++ space ++ text)) True := by
  apply ensures_pair ((ensures_operator ready operators).imp (fun _ _ => id) fun _ => trivial)
  rintro middle found ⟨belongs, text, unread, rfl⟩
  refine (recognizes.sound_after ready unread).imp ?_ id
  rintro next value ⟨space, inner, more, right, isSpace, behind, rfl, derives, known⟩
  exact ⟨space, inner, more, right, belongs, isSpace, derives, known, behind, rfl⟩

/-- The steps that are read continue the tree on the left. -/
theorem sound_steps (operators : level.operators = [first, second])
    (recognizes : Recognizes arithmetic level.operand (operand.behaviour call fuel))
    (rounds : Nat) (ready : cursor.Ready) {values : List (Operator × N)} {left : Tree} {start : N}
    (known : left.value arithmetic = some (foldLeft arithmetic (start, values.reverse))) :
    (Behaviour.repeatFrom ((pair (operator first second) operand).behaviour call fuel) rounds
      values).Ensures cursor
      (fun next all => ∃ consumed more tree, cursor.rest = consumed ++ more ∧
        next = cursor.past consumed ∧ Derives (.steps level left) consumed tree ∧
          tree.value arithmetic = some (foldLeft arithmetic (start, all))) False := by
  induction rounds generalizing cursor values left with
  | zero =>
      intro session
      trivial
  | succ rounds inductionHypothesis =>
      apply (sound_step operators recognizes ready).repeatFrom_succ
      · rintro next ⟨found, value⟩ ⟨space, text, more, right, belongs, isSpace, derives, valueKnown,
          unread, rfl⟩
        have treeKnown : (Tree.operation found left right).value arithmetic =
            some (foldLeft arithmetic (start, ((found, value) :: values).reverse)) := by
          rw [Tree.value_operation, foldLeft_reverse_cons]
          exact ⟨_, _, known, valueKnown, rfl⟩
        refine (inductionHypothesis (ready.past unread) treeKnown).imp ?_ id
        rintro last all ⟨consumed, others, tree, behind, rfl, steps, finalKnown⟩
        rw [Cursor.rest_past unread] at behind
        refine ⟨found.symbol.toList ++ space ++ text ++ consumed, others, tree, ?_, ?_,
          .step belongs isSpace derives steps, finalKnown⟩
        · rw [unread, behind]
          simp only [List.append_assoc]
        · rw [Cursor.past_past]
      · intro _
        exact ⟨[], cursor.rest, left, rfl, rfl, .last level left, known⟩

/-- There is no step where the level may end. -/
theorem refuses_step (operators : level.operators = [first, second]) (ready : cursor.Ready)
    (mayEnd : (Phrase.level level).MayEnd cursor.rest) :
    ((pair (operator first second) operand).behaviour call fuel).Ensures cursor
      (fun _ _ => False) True := by
  have refuses : ((operator first second : Parser (signature N) Operator).behaviour call
      fuel).Ensures cursor (fun _ _ => False) True := by
    refine (ensures_operator ready operators).imp ?_ fun _ => trivial
    rintro next found ⟨belongs, text, unread, _⟩
    obtain ⟨symbol, written, _, notEnd⟩ := Level.exists_symbol belongs
    rw [unread, written] at mayEnd
    exact notEnd (mayEnd symbol rfl)
  exact ensures_pair refuses fun _ _ => False.elim

/-- An operator is read with the white space before the operand that follows. -/
theorem complete_operator (operators : level.operators = [first, second]) (ready : cursor.Ready)
    {found : Operator} {right : Tree} {space text more : List Char}
    (belongs : found ∈ level.operators) (isSpace : IsSpace space)
    (derives : Derives level.operand text right)
    (unread : cursor.rest = (found.symbol.toList ++ space ++ text) ++ more) :
    ((operator first second : Parser (signature N) Operator).behaviour call fuel).Ensures cursor
      (fun next other => next = cursor.past (found.symbol.toList ++ space) ∧ other = found)
      False := by
  have split : cursor.rest = found.symbol.toList ++ (space ++ (text ++ more)) := by
    rw [unread]
    simp only [List.append_assoc]
  have skipped := longestRun_before isSpace derives (level.operand_noSteps) more
  refine (ensures_operator ready operators).imp ?_ ?_
  · rintro next other ⟨_, others, otherUnread, rfl⟩
    obtain ⟨rfl, rfl⟩ := Operator.symbol_append_inj (otherUnread.symm.trans split)
    rw [skipped]
    exact ⟨rfl, rfl⟩
  · intro refused
    exact refused found belongs ⟨_, split.symm⟩

/-- A derived step is read as a whole. -/
theorem complete_step (operators : level.operators = [first, second])
    (recognizes : Recognizes arithmetic level.operand (operand.behaviour call fuel))
    (ready : cursor.Ready) {found : Operator} {right : Tree} {space text more : List Char}
    {value : N} (belongs : found ∈ level.operators) (isSpace : IsSpace space)
    (derives : Derives level.operand text right) (known : right.value arithmetic = some value)
    (unread : cursor.rest = (found.symbol.toList ++ space ++ text) ++ more)
    (mayEnd : level.operand.MayEnd more) :
    ((pair (operator first second) operand).behaviour call fuel).Ensures cursor
      (fun next step => next = cursor.past (found.symbol.toList ++ space ++ text) ∧
        step = (found, value)) False := by
  apply ensures_pair (complete_operator operators ready belongs isSpace derives unread)
  rintro middle other ⟨rfl, rfl⟩
  refine (recognizes.complete_after ready unread derives known mayEnd).imp ?_ id
  rintro next found ⟨rfl, rfl⟩
  exact ⟨rfl, rfl⟩

/-- All derived steps are read. -/
theorem complete_steps (operators : level.operators = [first, second])
    (recognizes : Recognizes arithmetic level.operand (operand.behaviour call fuel))
    (rounds : Nat) (ready : cursor.Ready) {values : List (Operator × N)} {left tree : Tree}
    {start value : N} {consumed more : List Char} (unread : cursor.rest = consumed ++ more)
    (derives : Derives (.steps level left) consumed tree)
    (known : left.value arithmetic = some (foldLeft arithmetic (start, values.reverse)))
    (treeKnown : tree.value arithmetic = some value) (mayEnd : (Phrase.level level).MayEnd more) :
    (Behaviour.repeatFrom ((pair (operator first second) operand).behaviour call fuel) rounds
      values).Ensures cursor
      (fun next all => next = cursor.past consumed ∧ foldLeft arithmetic (start, all) = value)
      False := by
  induction rounds generalizing cursor values left consumed with
  | zero =>
      intro session
      trivial
  | succ rounds inductionHypothesis =>
      cases derives with
      | last =>
          have refuses : ((pair (operator first second) operand).behaviour call fuel).Ensures cursor
              (fun _ _ => False) True := by
            apply refuses_step operators ready
            rw [unread]
            exact mayEnd
          refine refuses.repeatFrom_succ (fun _ _ => False.elim) fun _ => ⟨rfl, ?_⟩
          rw [known, Option.some.injEq] at treeKnown
          exact treeKnown
      | @step _ _ right _ found space text rest belongs isSpace operandDerives steps =>
          obtain ⟨whole, wholeKnown⟩ := steps.exists_left_value treeKnown
          obtain ⟨_, argument, _, argumentKnown, _⟩ := Tree.value_operation.mp wholeKnown
          have split : cursor.rest = (found.symbol.toList ++ space ++ text) ++ (rest ++ more) := by
            rw [unread]
            simp only [List.append_assoc]
          have step := complete_step operators recognizes ready belongs isSpace operandDerives
            argumentKnown split (steps.operand_mayEnd fun _ => mayEnd)
          refine step.repeatFrom_succ ?_ False.elim
          rintro next _ ⟨rfl, rfl⟩
          have nextKnown : (Tree.operation found left right).value arithmetic =
              some (foldLeft arithmetic (start, ((found, argument) :: values).reverse)) := by
            rw [Tree.value_operation, foldLeft_reverse_cons]
            exact ⟨_, _, known, argumentKnown, rfl⟩
          refine (inductionHypothesis (ready.past split) (Cursor.rest_past split) steps
            nextKnown).imp ?_ id
          rintro last all ⟨rfl, same⟩
          rw [Cursor.past_past]
          exact ⟨rfl, same⟩

/-- A level is recognized when its operands are. -/
theorem recognizes_level (operators : level.operators = [first, second])
    (recognizes : Recognizes arithmetic level.operand (operand.behaviour call fuel)) :
    Recognizes arithmetic (.level level)
      ((Calculator.level arithmetic (operator first second) operand).behaviour call fuel) where
  sound := by
    intro cursor ready
    apply Behaviour.Ensures.map
    apply ensures_pair (recognizes.sound ready)
    rintro middle start ⟨consumed, more, left, unread, rfl, derives, known⟩
    have begun : left.value arithmetic = some (foldLeft arithmetic (start, [].reverse)) := known
    have steps := sound_steps operators recognizes fuel (ready.past unread) begun
    refine steps.many.imp ?_ False.elim
    rintro next all ⟨consumed', more', tree, behind, rfl, stepsDerive, treeKnown⟩
    rw [Cursor.rest_past unread] at behind
    refine ⟨consumed ++ consumed', more', tree, ?_, ?_, .level derives stepsDerive, treeKnown⟩
    · rw [unread, behind, List.append_assoc]
    · rw [Cursor.past_past]
  complete := by
    intro cursor consumed more tree value ready unread derives treeKnown mayEnd
    cases derives with
    | @level _ text rest left _ operandDerives steps =>
        obtain ⟨start, known⟩ := steps.exists_left_value treeKnown
        have split : cursor.rest = text ++ (rest ++ more) := by
          rw [unread, List.append_assoc]
        apply Behaviour.Ensures.map
        apply ensures_pair (recognizes.complete ready split operandDerives known
          (steps.operand_mayEnd fun _ => mayEnd))
        rintro middle first ⟨rfl, rfl⟩
        have begun : left.value arithmetic = some (foldLeft arithmetic (first, [].reverse)) := known
        have repeated := complete_steps operators recognizes fuel (ready.past split)
          (Cursor.rest_past split) steps begun treeKnown mayEnd
        refine repeated.many.imp ?_ id
        rintro next all ⟨rfl, same⟩
        rw [Cursor.past_past]
        exact ⟨rfl, same⟩

end

end ParserCombinators.Calculator
