/-
This file shows that phrases are read at least as far as they are derived. What stands behind a
phrase may make its parser read on, but never stop earlier.
-/

import ParserCombinators.Proofs.Calculator.Evaluation

namespace ParserCombinators.Calculator

open ParserCombinators.Parser ParserCombinators.Pattern ParserCombinators.Text

variable {N A : Type} {arithmetic : Arithmetic N}
  {call : (rule : Rule) → Behaviour .text Unit ((signature N).result rule)} {fuel : Nat}
  {cursor : Cursor .text}

/-- The parser never fails at a derived text and goes at least to its end, whatever follows. -/
def Reaches (phrase : Phrase) (behaviour : Behaviour .text Unit N) : Prop :=
  ∀ ⦃cursor : Cursor .text⦄ ⦃consumed more : List Char⦄ ⦃tree : Tree⦄, cursor.Ready →
    cursor.rest = consumed ++ more → Derives phrase consumed tree →
      behaviour.Ensures cursor (fun next _ => (cursor.past consumed).Leads next) False

/-- No character of a number is white space. -/
theorem IsNumber.not_isWhiteSpace {number : List Char} (isNumber : IsNumber number)
    {character : Char} (member : character ∈ number) : isWhiteSpace character = false := by
  cases isNumber with
  | whole isDigits => exact not_isWhiteSpace_of_isAsciiDigit (isDigits.2 character member)
  | decimal isDigits isFraction =>
      rcases List.mem_append.mp member with whole | behind
      · exact not_isWhiteSpace_of_isAsciiDigit (isDigits.2 character whole)
      · rcases List.mem_cons.mp behind with rfl | fraction
        · rfl
        · exact not_isWhiteSpace_of_isAsciiDigit (isFraction.2 character fraction)

/-- The longest number and the white space behind it cover every number with its white space. -/
theorem number_space_prefix {number space more digits text : List Char}
    (isNumber : IsNumber number) (isSpace : IsSpace space)
    (found : someNumber (number ++ (space ++ more)) = some digits)
    (split : number ++ (space ++ more) = digits ++ text) :
    number ++ space <+: digits ++ longestRun .whiteSpace text := by
  have longest : IsNumber digits := isNumber_of_someNumber found
  obtain ⟨others, longer⟩ := exists_someNumber_append isNumber (space ++ more)
  rw [found, Option.some.injEq] at longer
  subst longer
  rw [List.append_assoc, List.append_cancel_left_eq] at split
  rw [List.append_assoc, List.prefix_append_right_inj]
  cases others with
  | nil =>
      have run : longestRun .whiteSpace (space ++ more) = space ++ longestRun .whiteSpace more :=
        longestRun_run_append isSpace more
      rw [List.nil_append] at split
      rw [List.nil_append, ← split, run]
      exact List.prefix_append space _
  | cons character others =>
      -- The number goes on, so no white space stands behind its first part.
      cases space with
      | nil => exact List.nil_prefix
      | cons first rest =>
          rw [List.cons_append, List.cons_append, List.cons.injEq] at split
          have white := isSpace first List.mem_cons_self
          rw [split.1, longest.not_isWhiteSpace (by simp)] at white
          cases white

section

variable (reads : ∀ number, IsNumber number →
  (arithmetic.reader.read (String.ofList number)).isSome = true)

include reads

theorem reaches_number {number space more : List Char} (ready : cursor.Ready)
    (unread : cursor.rest = (number ++ space) ++ more) (isNumber : IsNumber number)
    (isSpace : IsSpace space) :
    ((Calculator.number arithmetic).behaviour call fuel).Ensures cursor
      (fun next _ => (cursor.past (number ++ space)).Leads next) False := by
  rw [List.append_assoc] at unread
  refine (ensures_number ready arithmetic).imp ?_ ?_
  · rintro next value ⟨digits, text, found, split, _, rfl⟩
    rw [unread] at found split
    have covers := number_space_prefix isNumber isSpace found split
    exact ready.leads_past_past (rest_after_symbol (unread.trans split)) covers
  · intro refused
    obtain ⟨others, found⟩ := exists_someNumber_append isNumber (space ++ more)
    rw [← unread] at found
    have readable := reads _ (isNumber_of_someNumber found)
    rw [refused _ found] at readable
    cases readable

theorem reaches_parenthesized
    (recognizes : Recognizes arithmetic (.level .sum) (call .expression)) (ready : cursor.Ready)
    {before inner after more : List Char} {tree : Tree}
    (unread : cursor.rest = ('(' :: before ++ inner ++ ')' :: after) ++ more)
    (isSpace : IsSpace before) (derives : Derives (.level .sum) inner tree)
    (isSpaceAfter : IsSpace after) :
    ((parenthesized : Parser (signature N) N).behaviour call fuel).Ensures cursor
      (fun next _ => (cursor.past ('(' :: before ++ inner ++ ')' :: after)).Leads next) False := by
  obtain ⟨value, known⟩ := derives.exists_value reads nofun
  have split : cursor.rest = '(' :: before ++ inner ++ ')' :: (after ++ more) := by
    rw [unread]
    simp
  refine (ensures_parenthesized recognizes ready split isSpace derives known).imp ?_ id
  rintro next _ ⟨rfl, _⟩
  have run : longestRun .whiteSpace (after ++ more) = after ++ longestRun .whiteSpace more :=
    longestRun_run_append isSpaceAfter more
  have whole := longestRun_append_afterRun .whiteSpace more
  have behind : cursor.rest = ('(' :: before ++ inner ++ ')' ::
      (after ++ longestRun .whiteSpace more)) ++ afterRun .whiteSpace more := by
    rw [split]
    simp [whole]
  rw [run]
  apply ready.leads_past_past behind
  rw [List.prefix_append_right_inj, ← List.cons_append]
  exact List.prefix_append _ _

theorem reaches_factor (recognizes : Recognizes arithmetic (.level .sum) (call .expression)) :
    Reaches .factor ((factor arithmetic).behaviour call fuel) := by
  intro cursor consumed more tree ready unread derives
  rw [factor_eq]
  refine Behaviour.Ensures.label ?_ "factor"
  cases derives with
  | number isNumber isSpace =>
      exact ensures_choiceOf_two (reaches_number reads ready unread isNumber isSpace) False.elim
  | parentheses isSpace inner isSpaceAfter =>
      have refuses : ((number arithmetic).behaviour call fuel).Ensures cursor
          (fun _ _ => False) True := refuses_number ready unread
      apply ensures_choiceOf_two (refuses.imp (fun _ _ => False.elim) id)
      intro _
      exact reaches_parenthesized reads recognizes ready unread isSpace inner isSpaceAfter

/-- A phrase is read to its end at least, and just to its end when it may end there. -/
theorem Recognizes.reaches_after {phrase : Phrase} {behaviour : Behaviour .text Unit N}
    (recognizes : Recognizes arithmetic phrase behaviour) (reaches : Reaches phrase behaviour)
    (noSteps : ∀ level left, phrase ≠ .steps level left) (ready : cursor.Ready)
    {before text more : List Char} {tree : Tree} (unread : cursor.rest = (before ++ text) ++ more)
    (derives : Derives phrase text tree) :
    behaviour.Ensures (cursor.past before)
      (fun next _ => (cursor.past (before ++ text)).Leads next ∧
        (phrase.MayEnd more → next = cursor.past (before ++ text))) False := by
  have split : cursor.rest = before ++ (text ++ more) := by
    rw [unread, List.append_assoc]
  have behind := Cursor.rest_past split
  by_cases mayEnd : phrase.MayEnd more
  · obtain ⟨value, known⟩ := derives.exists_value reads fun level left same =>
      absurd same (noSteps level left)
    refine (recognizes.complete (ready.past split) behind derives known mayEnd).imp ?_ id
    rintro next _ ⟨rfl, _⟩
    rw [Cursor.past_past]
    exact ⟨.refl (ready.past unread).toValid, fun _ => rfl⟩
  · refine (reaches (ready.past split) behind derives).imp ?_ id
    intro next _ leads
    rw [Cursor.past_past] at leads
    exact ⟨leads, fun ends => absurd ends mayEnd⟩

end

/-- A repetition goes to the end of what follows a phrase. Where nothing follows it only has to lead
on from wherever the phrase was read to. -/
theorem reaches_rest {repeated : Behaviour .text Unit A} {phrase : Phrase}
    {middle next : Cursor .text} {rest more : List Char} (ready : middle.Ready)
    (leads : middle.Leads next) (ends : phrase.MayEnd (rest ++ more) → next = middle)
    (mayEnd : rest ≠ [] → phrase.MayEnd (rest ++ more))
    (leadsOn : ∀ cursor : Cursor .text, cursor.Ready →
      repeated.Ensures cursor (fun last _ => cursor.Leads last) False)
    (reachesRest : repeated.Ensures middle (fun last _ => (middle.past rest).Leads last) False) :
    repeated.Ensures next (fun last _ => (middle.past rest).Leads last) False := by
  by_cases nothing : rest = []
  · subst nothing
    refine (leadsOn next (leads.ready ready)).imp ?_ id
    intro last _ further
    exact leads.trans further
  · rw [ends (mayEnd nothing)]
    exact reachesRest

section

variable {level : Level} {first second : Operator} {operand : Parser (signature N) N}

/-- The steps of a level only lead on, and they never fail. -/
theorem leads_steps (operators : level.operators = [first, second])
    (recognizes : Recognizes arithmetic level.operand (operand.behaviour call fuel))
    (rounds : Nat) (ready : cursor.Ready) (values : List (Operator × N)) :
    (Behaviour.repeatFrom ((pair (operator first second) operand).behaviour call fuel) rounds
      values).Ensures cursor (fun next _ => cursor.Leads next) False := by
  apply Behaviour.Ensures.repeatFrom_leads _ rounds ready values
  intro cursor ready
  refine (sound_step operators recognizes ready).imp ?_ id
  rintro next step ⟨space, text, more, right, _, _, _, _, unread, rfl⟩
  exact Cursor.leads_past ready.toValid unread

variable (reads : ∀ number, IsNumber number →
  (arithmetic.reader.read (String.ofList number)).isSome = true)

include reads

/-- The steps of a level are read to their end at least. -/
theorem reaches_steps (operators : level.operators = [first, second])
    (recognizes : Recognizes arithmetic level.operand (operand.behaviour call fuel))
    (reaches : Reaches level.operand (operand.behaviour call fuel)) (rounds : Nat)
    (ready : cursor.Ready) (values : List (Operator × N)) {left tree : Tree}
    {consumed more : List Char} (unread : cursor.rest = consumed ++ more)
    (derives : Derives (.steps level left) consumed tree) :
    (Behaviour.repeatFrom ((pair (operator first second) operand).behaviour call fuel) rounds
      values).Ensures cursor (fun next _ => (cursor.past consumed).Leads next) False := by
  induction rounds generalizing cursor values left consumed with
  | zero =>
      intro session
      trivial
  | succ rounds inductionHypothesis =>
      cases derives with
      | last => exact leads_steps operators recognizes (rounds + 1) ready values
      | @step _ _ right _ found space text rest belongs isSpace operandDerives steps =>
          have split : cursor.rest = (found.symbol.toList ++ space ++ text) ++ (rest ++ more) := by
            rw [unread]
            simp only [List.append_assoc]
          have step : ((pair (operator first second) operand).behaviour call fuel).Ensures cursor
              (fun next _ => (cursor.past (found.symbol.toList ++ space ++ text)).Leads next ∧
                (level.operand.MayEnd (rest ++ more) →
                  next = cursor.past (found.symbol.toList ++ space ++ text))) False := by
            apply ensures_pair
              (complete_operator operators ready belongs isSpace operandDerives split)
            rintro middle _ ⟨rfl, _⟩
            exact recognizes.reaches_after reads reaches level.operand_noSteps ready split
              operandDerives
          refine step.repeatFrom_succ ?_ False.elim
          rintro next value ⟨leads, ends⟩
          rw [← Cursor.past_past]
          apply reaches_rest (ready.past split) leads ends
          · exact fun some => steps.operand_mayEnd fun none => absurd none some
          · exact fun other otherReady => leads_steps operators recognizes rounds otherReady _
          · exact inductionHypothesis (ready.past split) _ (Cursor.rest_past split) steps

/-- A level is reached when its operands are. -/
theorem reaches_level (operators : level.operators = [first, second])
    (recognizes : Recognizes arithmetic level.operand (operand.behaviour call fuel))
    (reaches : Reaches level.operand (operand.behaviour call fuel)) :
    Reaches (.level level)
      ((Calculator.level arithmetic (operator first second) operand).behaviour call fuel) := by
  intro cursor consumed more tree ready unread derives
  cases derives with
  | @level _ text rest left _ operandDerives steps =>
      have split : cursor.rest = ([] ++ text) ++ (rest ++ more) := by
        rw [unread, List.nil_append, List.append_assoc]
      apply Behaviour.Ensures.map
      apply ensures_pair (recognizes.reaches_after reads reaches level.operand_noSteps ready split
        operandDerives)
      rintro next start ⟨leads, ends⟩
      rw [← Cursor.past_past]
      apply Behaviour.Ensures.many
      apply reaches_rest (ready.past split) leads ends
      · exact fun some => steps.operand_mayEnd fun none => absurd none some
      · exact fun other otherReady => leads_steps operators recognizes fuel otherReady []
      · exact reaches_steps reads operators recognizes reaches fuel (ready.past split) []
          (Cursor.rest_past split) steps

theorem reaches_expression (recognizes : Recognizes arithmetic (.level .sum) (call .expression)) :
    Reaches (.level .sum) ((expression arithmetic).behaviour call fuel) := by
  have factors : Recognizes arithmetic .factor ((factor arithmetic).behaviour call fuel) :=
    recognizes_factor recognizes
  have products : Recognizes arithmetic (.level .product)
      ((term arithmetic).behaviour call fuel) := recognizes_level rfl factors
  have product : Reaches (.level .product) ((term arithmetic).behaviour call fuel) :=
    reaches_level reads rfl factors (reaches_factor reads recognizes)
  exact reaches_level reads rfl products product

end

end ParserCombinators.Calculator
