/-
This file puts other elements before an input. A parser that looks only ahead does the same there,
and what it reports lies as much further on as there are elements before.
-/

import ParserCombinators.Proofs.Ending
import ParserCombinators.Proofs.Failure.Shape
import ParserCombinators.Proofs.Failure.Shifted
import ParserCombinators.Proofs.Pattern.Lookahead

namespace ParserCombinators

section

variable {medium : Medium} {A : Type} {before : List medium.Element} {cursor : Cursor medium}

/-- The same place when other elements stand before the input. -/
def Cursor.shift (before : List medium.Element) (cursor : Cursor medium) : Cursor medium :=
  ⟨before ++ cursor.input, medium.measure before + cursor.index⟩

/-- What is left to read stays the same, even inside an element. -/
theorem Cursor.rest_shift : (cursor.shift before).rest = cursor.rest := by
  rw [rest, rest, shift, medium.after_append]

theorem Cursor.found_shift : (cursor.shift before).found = cursor.found := by
  rw [found, preview, rest_shift]
  rfl

theorem Cursor.past_shift (consumed : List medium.Element) :
    (cursor.shift before).past consumed = (cursor.past consumed).shift before := by
  simp only [past, shift, Nat.add_assoc]

theorem Cursor.Valid.of_shift (valid : (cursor.shift before).Valid) : cursor.Valid := by
  have within := valid.within
  have addressable := valid.addressable
  rw [length, shift, medium.measure_append] at within addressable
  constructor
  · exact Nat.le_of_add_le_add_left within
  · exact Nat.lt_of_le_of_lt (Nat.le_add_left _ _) addressable

/-- The second parse reads the same input behind other elements. -/
def Likeness.shift (before : List medium.Element) : Likeness medium where
  cursors cursor cursor' := cursor' = cursor.shift before ∧ cursor'.Valid
  failures := Failure.Shifted (medium.measure before)

theorem Reading.consume_alike_shift (valid : (cursor.shift before).Valid)
    {consumed more : List medium.Element} (unread : cursor.rest = consumed ++ more)
    (value : List medium.Element → A) :
    (consume cursor (medium.measure consumed) value).Alike (.shift before)
      (consume (cursor.shift before) (medium.measure consumed) value) := by
  have unread' : (cursor.shift before).rest = consumed ++ more := Cursor.rest_shift.trans unread
  have nextValid := (Cursor.leads_past valid unread').valid valid
  have nexts : (Likeness.shift before).cursors (cursor.past consumed)
      ((cursor.shift before).past consumed) := ⟨Cursor.past_shift consumed, nextValid⟩
  rw [consume_eq_success valid.of_shift unread, consume_eq_success valid unread']
  exact .success nexts (value consumed)

theorem Reading.failAt_alike_shift (kind : FailureKind) (noChoice : kind ≠ .choice)
    (message : String) :
    (failAt cursor kind message : Reading medium A).Alike (.shift before)
      (failAt (cursor.shift before) kind message) :=
  .failure (.newAt kind noChoice message)

end

/-- A pattern that looks ahead matches the same behind other characters, from every offset. -/
theorem Pattern.LooksAhead.matchFrom_shift {pattern : Pattern} (ahead : pattern.LooksAhead)
    (before text : List Char) (offset : Nat) :
    pattern.matchFrom (before ++ text) (Medium.measure .text before + offset) =
      (pattern.matchFrom text offset).map (Span.shift (Medium.measure .text before)) := by
  have sameAfter := Medium.after_append .text before text offset
  cases begins : Medium.after .text text offset with
  | none =>
      rw [matchFrom_eq_none begins, matchFrom_eq_none (sameAfter.trans begins), Option.map_none]
  | some rest =>
      obtain ⟨first, rfl, rfl⟩ := (Medium.after_eq_some_iff .text text rest offset).mp begins
      have total := Medium.measure_append .text before first
      have twice :
          Span.shift (Medium.measure .text before) ∘ Span.shift (Medium.measure .text first) =
            Span.shift (Medium.measure .text (before ++ first)) := by
        funext span
        simp only [Function.comp, Span.shift, total, Nat.add_assoc]
      rw [ahead first rest, Option.map_map, twice, ← ahead (before ++ first) rest,
        List.append_assoc, total]

namespace Leaf

/-- Only a pattern may look at what stands before the cursor. -/
def LooksAhead {medium : Medium} {A : Type} : Leaf medium A → Prop
  | .pattern wanted => wanted.LooksAhead
  | _ => True

/-- A leaf that looks ahead reads the same behind other elements. -/
theorem LooksAhead.read_alike_shift {medium : Medium} {A : Type} {wanted : Leaf medium A}
    (ahead : wanted.LooksAhead) {before : List medium.Element} {cursor : Cursor medium}
    (valid : (cursor.shift before).Valid) :
    (wanted.read cursor).Alike (.shift before) (wanted.read (cursor.shift before)) := by
  have sameRest : (cursor.shift before).rest = cursor.rest := Cursor.rest_shift
  have sameFound : (cursor.shift before).found = cursor.found := Cursor.found_shift
  cases wanted with
  | literal expected =>
      simp only [read, readLiteral, sameRest, sameFound]
      split
      next begins =>
        obtain ⟨more, same⟩ := List.isPrefixOf_iff_prefix.mp begins
        exact Reading.consume_alike_shift valid same.symm String.ofList
      next => exact Reading.failAt_alike_shift .literal FailureKind.noConfusion _
  | pattern wanted =>
      have sameMatch : wanted.matchFrom (cursor.shift before).input (cursor.shift before).index =
          (wanted.matchFrom cursor.input cursor.index).map (.shift (Medium.measure .text before)) :=
        Pattern.LooksAhead.matchFrom_shift ahead before cursor.input cursor.index
      simp only [read, readPattern, sameMatch, sameFound]
      cases found : wanted.matchFrom cursor.input cursor.index with
      | none => exact Reading.failAt_alike_shift .pattern FailureKind.noConfusion _
      | some span =>
          obtain ⟨consumed, more, unread, covers⟩ := exists_unread_of_matchFrom found
          have length : span.stop - cursor.index = Medium.measure .text consumed := by
            rw [covers, Nat.add_sub_cancel_left]
          have sameLength : (span.shift (Medium.measure .text before)).stop -
              (cursor.shift before).index = span.stop - cursor.index :=
            Nat.add_sub_add_left ..
          simp only [Option.map_some, sameLength, length]
          exact Reading.consume_alike_shift valid unread String.ofList
  | satisfy description accepts =>
      simp only [read, readSatisfy, Cursor.peek, sameRest]
      split
      next element found =>
        obtain ⟨more, unread⟩ := List.head?_eq_some_iff.mp (Option.filter_eq_some_iff.mp found).1
        have unread' : cursor.rest = [element] ++ more := unread
        exact Reading.consume_alike_shift valid unread' fun _ => element
      next => exact Reading.failAt_alike_shift (.custom description) FailureKind.noConfusion _
  | take count =>
      simp only [read, readTake, sameRest]
      split
      next => exact Reading.failAt_alike_shift (.custom "take") FailureKind.noConfusion _
      next enough =>
        have split := (List.take_append_drop count cursor.rest).symm
        have consumed := Reading.consume_alike_shift valid split id
        rw [measure_take_rest enough] at consumed
        exact consumed

end Leaf

variable {signature : Signature} {A : Type}

/-- The part looks ahead if it is a leaf, and builds its failures by itself. -/
def Parser.PartLooksAhead : Parser signature A → Prop
  | .leaf wanted => wanted.LooksAhead
  | part => ¬ part.ReportsAnything

/-- No part of the parser looks at what stands before the cursor, and all failures that the parser
reports are built by leaves and combinators. -/
def Parser.LooksAhead (parser : Parser signature A) : Prop :=
  parser.Everywhere fun _ part => part.PartLooksAhead

def Grammar.LooksAhead (grammar : Grammar signature) : Prop := ∀ rule, (grammar rule).LooksAhead

/-- A parser that looks ahead has no plain functions. -/
theorem Parser.LooksAhead.lawful {parser : Parser signature A} (ahead : parser.LooksAhead) :
    parser.Lawful := by
  refine Parser.Everywhere.imp (fun B part partAhead => ?_) ahead
  cases part with
  | function run => exact absurd trivial partAhead
  | _ => trivial

section

variable {before : List signature.medium.Element}

/-- A parser that looks ahead is like itself behind other elements when the rules are. -/
theorem Parser.behaviour_alike_shift
    {call : (rule : signature.Rule) →
      Behaviour signature.medium signature.Memory (signature.result rule)}
    (callAlike : ∀ rule, (call rule).Alike (.shift before) (call rule)) (fuel : Nat)
    {parser : Parser signature A} (ahead : parser.LooksAhead) :
    (parser.behaviour call fuel).Alike (.shift before) (parser.behaviour call fuel) := by
  induction parser with
  | leaf wanted =>
      apply Behaviour.Alike.leaf
      rintro cursor _ ⟨rfl, valid⟩
      exact Leaf.LooksAhead.read_alike_shift ahead valid
  | function run => exact absurd trivial ahead
  | succeed value => exact .succeed value
  | fail reason => exact absurd trivial ahead
  | map convert parser alike => exact (alike ahead.2).map convert
  | chain parser next alike nextAlike =>
      exact (alike ahead.2.1).chain fun value => nextAlike value (ahead.2.2 value)
  | ap applied argument alike argumentAlike =>
      exact (alike ahead.2.1).ap (argumentAlike ahead.2.2)
  | mapError convert parser alike => exact absurd trivial ahead.1
  | label name parser alike =>
      apply (alike ahead.2).label
      rintro cursor _ cause cause' ⟨rfl, _⟩ causes
      exact causes.rule name
  | parseAs reader parser alike =>
      apply (alike ahead.2).parseAs
      rintro cursor _ text ⟨rfl, _⟩
      exact .reader reader.name text
  | sequence parts alike =>
      exact (Behaviour.Alike.tuple fun part => alike part (ahead.2 part)).announce _ _
  | sequenceList parts alike =>
      exact (Behaviour.Alike.row fun part => alike part (ahead.2 part)).announce _ _
  | choice alternatives alike =>
      refine (Behaviour.Alike.attempt (fun index => alike index (ahead.2 index)) ?_ .nil).announce
        _ _
      rintro cursor _ failures failures' ⟨rfl, _⟩ all
      exact .choice all
  | many parser alike => exact (alike ahead.2).many fuel
  | manyOne parser alike =>
      apply (alike ahead.2).manyOne fuel
      rintro cursor _ cause cause' ⟨rfl, _⟩ causes
      exact causes.manyOne
  | sepBy separator item alike itemAlike =>
      exact (alike ahead.2.1).sepBy (itemAlike ahead.2.2) fuel
  | optional parser alike => exact (alike ahead.2).optional
  | rule name => exact (callAlike name).announce _ _
  | fresh memory parser alike => exact (alike ahead.2).fresh memory

theorem Grammar.call_alike_shift {grammar : Grammar signature} (ahead : grammar.LooksAhead)
    (fuel : Nat) (rule : signature.Rule) :
    (grammar.call fuel rule).Alike (.shift before) (grammar.call fuel rule) := by
  induction fuel generalizing rule with
  | zero => exact fun _ _ _ _ _ _ => .unfinished
  | succ fuel inductionHypothesis =>
      exact Parser.behaviour_alike_shift inductionHypothesis fuel (ahead rule)

end

/-- A parse behind other elements goes like the parse without them. Both succeed with the same value
and leave the same rest, or both fail with trees of failures that say the same, or both diverge.
All places lie as much further on as there are elements before. -/
theorem Grammar.ends_alike_behind {grammar : Grammar signature} (ahead : grammar.LooksAhead)
    {parser : Parser signature A} (parserAhead : parser.LooksAhead)
    {before after : List signature.medium.Element}
    (addressable : signature.medium.measure (before ++ after) < Cursor.indexBound)
    (session : Session signature.Memory) :
    let here : Cursor signature.medium := .start after
    let there : Cursor signature.medium := ⟨before ++ after, signature.medium.measure before⟩
    let distance := signature.medium.measure before
    (∃ next next' value, grammar.Succeeds parser here session next value ∧
        grammar.Succeeds parser there session next' value ∧
          next'.index = distance + next.index ∧ next'.rest = next.rest) ∨
      (∃ reason reason', grammar.FailsWith parser here session reason ∧
        grammar.FailsWith parser there session reason' ∧ reason.Shifted distance reason') ∨
      grammar.Diverges parser here session ∧ grammar.Diverges parser there session := by
  intro here there distance
  have valid : there.Valid := by
    refine ⟨?_, addressable⟩
    rw [Cursor.length, signature.medium.measure_append]
    exact Nat.le_add_right _ _
  have cursors : (Likeness.shift before).cursors here there := ⟨rfl, valid⟩
  have alike (fuel : Nat) : (grammar.outcome fuel parser here session).Alike (.shift before)
      (grammar.outcome fuel parser there session) :=
    Parser.behaviour_alike_shift (Grammar.call_alike_shift ahead fuel) fuel parserAhead here there
      cursors session session rfl
  have noFault (fuel : Nat) (problem : Fault) :
      grammar.outcome fuel parser here session ≠ .fault problem := by
    have lawful : grammar.Lawful := fun rule => (ahead rule).lawful
    have safe := Grammar.outcome_safe lawful parserAhead.lawful fuel
    have hereValid : here.Valid := @Cursor.Valid.of_shift _ before here valid
    exact (safe here hereValid session).ne_fault problem
  rcases Grammar.end_together_of_alike alike noFault with
    ⟨next, _, value, ⟨rfl, _⟩, succeeds, succeeds'⟩ | ⟨reason, reason', shifted, fails, fails'⟩ |
      diverge
  · exact .inl ⟨next, _, value, succeeds, succeeds', rfl, Cursor.rest_shift⟩
  · exact .inr (.inl ⟨reason, reason', fails, fails', shifted⟩)
  · exact .inr (.inr diverge)

namespace Calculator

theorem grammar_looksAhead {N : Type} (arithmetic : Arithmetic N) :
    (grammar arithmetic).LooksAhead := by
  have numberAhead : numberPattern.LooksAhead := Pattern.looksAhead_ofExpression _ rfl
  intro rule
  cases rule
  simp [grammar, expression, term, factor, level, operator, number, token, literal, whiteSpace,
    Parser.choiceOf, Parser.between, Parser.pair, Parser.LooksAhead, Parser.Everywhere,
    Parser.PartLooksAhead, Parser.ReportsAnything, Leaf.LooksAhead, Fin.forall_fin_succ,
    numberAhead, Pattern.looksAhead_whiteSpace]

/-- An open parenthesis behind a sum fails two bytes further on than on its own. -/
theorem unclosed_fails_behind_sum :
    (grammar floatArithmetic).LooksAhead ∧
      Medium.measure .text ("1+".toList ++ "(".toList) < Cursor.indexBound ∧
        ∃ reason, (grammar floatArithmetic).FailsWith (expression floatArithmetic)
          ⟨"1+(".toList, 2⟩ (.initial ()) reason ∧ reason.position = some 2 := by
  have ahead := grammar_looksAhead floatArithmetic
  have expressionAhead : (expression floatArithmetic).LooksAhead := ahead .expression
  have addressable : Medium.measure .text ("1+".toList ++ "(".toList) < Cursor.indexBound := by
    decide
  have failure : ∃ reason, (grammar floatArithmetic).FailsWith (expression floatArithmetic)
      (.start "(".toList) (.initial ()) reason ∧ reason.position = some 0 :=
    ⟨_, ⟨3, _, by rfl⟩, rfl⟩
  obtain ⟨reason, fails, atStart⟩ := failure
  refine ⟨ahead, addressable, ?_⟩
  rcases Grammar.ends_alike_behind ahead expressionAhead addressable (.initial ()) with
    ⟨next, _, value, succeeds, _⟩ | ⟨reason', other, fails', failsBehind, shifted⟩ | ⟨diverges, _⟩
  · exact absurd fails.fails succeeds.not_fails
  · have moved := shifted.report.position
    rw [fails'.unique fails, ← Failure.position, ← Failure.position, atStart] at moved
    exact ⟨other, failsBehind, moved⟩
  · exact absurd diverges fails.not_diverges

end Calculator

end ParserCombinators
