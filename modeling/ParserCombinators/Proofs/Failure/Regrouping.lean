/-
This file shows that labels and the grouping of alternatives do not change which leaf failures are
reported. Two parsers that differ in nothing else end together, and their failures have the same
leaves in the same order.
-/

import Mathlib.Data.List.OfFn
import ParserCombinators.Grammar.Tokens
import ParserCombinators.Proofs.ErrorHandling
import ParserCombinators.Proofs.Failure.Parts
import ParserCombinators.Proofs.Nullable

namespace ParserCombinators

section

variable {medium : Medium} {Memory A : Type} {signature : Signature}

/-- The second parser has labels in other places, or it groups the alternatives of choices in
another way. None of the two converts failures. -/
inductive Parser.Regroups : {A : Type} → Parser signature A → Parser signature A → Prop
  | label {A : Type} (name : String) {parser parser' : Parser signature A}
      (inner : Regroups parser parser') : Regroups (.label name parser) parser'
  | group {A : Type} {count : Nat} {alternatives : Fin count → Parser signature A}
      (groups : List (List (Parser signature A)))
      (split : groups.flatten = List.ofFn alternatives) (inhabited : ∀ group ∈ groups, group ≠ [])
      (inner : ∀ index, Regroups (alternatives index) (alternatives index)) :
      Regroups (.choice alternatives) (choiceOf (groups.map choiceOf))
  | symm {A : Type} {parser parser' : Parser signature A} (inner : Regroups parser parser') :
      Regroups parser' parser
  | trans {A : Type} {parser middle parser' : Parser signature A}
      (first : Regroups parser middle) (second : Regroups middle parser') :
      Regroups parser parser'
  | leaf {A : Type} (wanted : Leaf signature.medium A) : Regroups (.leaf wanted) (.leaf wanted)
  | function {A : Type}
      (run : Cursor signature.medium → signature.Memory →
        Reading signature.medium A × signature.Memory) : Regroups (.function run) (.function run)
  | succeed {A : Type} (value : A) : Regroups (.succeed value) (.succeed value)
  | fail {A : Type} (reason : Failure) :
      Regroups (.fail reason : Parser signature A) (.fail reason)
  | map {A B : Type} (convert : A → B) {parser parser' : Parser signature A}
      (inner : Regroups parser parser') : Regroups (.map convert parser) (.map convert parser')
  | chain {A B : Type} {parser parser' : Parser signature A} {next next' : A → Parser signature B}
      (inner : Regroups parser parser') (nextInner : ∀ value, Regroups (next value) (next' value)) :
      Regroups (.chain parser next) (.chain parser' next')
  | ap {A B : Type} {applied applied' : Parser signature (A → B)}
      {argument argument' : Parser signature A} (inner : Regroups applied applied')
      (argumentInner : Regroups argument argument') :
      Regroups (.ap applied argument) (.ap applied' argument')
  | parseAs {A : Type} (reader : Reader A) {parser parser' : Parser signature String}
      (inner : Regroups parser parser') :
      Regroups (.parseAs reader parser) (.parseAs reader parser')
  | sequence {types : List Type}
      {parts parts' : (part : Fin types.length) → Parser signature (types.get part)}
      (inner : ∀ part, Regroups (parts part) (parts' part)) :
      Regroups (.sequence parts) (.sequence parts')
  | sequenceList {A : Type} {count : Nat} {parts parts' : Fin count → Parser signature A}
      (inner : ∀ part, Regroups (parts part) (parts' part)) :
      Regroups (.sequenceList parts) (.sequenceList parts')
  | choice {A : Type} {count : Nat} {alternatives alternatives' : Fin count → Parser signature A}
      (inner : ∀ index, Regroups (alternatives index) (alternatives' index)) :
      Regroups (.choice alternatives) (.choice alternatives')
  | many {A : Type} {parser parser' : Parser signature A} (inner : Regroups parser parser') :
      Regroups (.many parser) (.many parser')
  | manyOne {A : Type} {parser parser' : Parser signature A} (inner : Regroups parser parser') :
      Regroups (.manyOne parser) (.manyOne parser')
  | sepBy {A B : Type} {separator separator' : Parser signature B} {item item' : Parser signature A}
      (inner : Regroups separator separator') (itemInner : Regroups item item') :
      Regroups (.sepBy separator item) (.sepBy separator' item')
  | optional {A : Type} {parser parser' : Parser signature A} (inner : Regroups parser parser') :
      Regroups (.optional parser) (.optional parser')
  | rule (name : signature.Rule) : Regroups (.rule name) (.rule name)
  | fresh {A : Type} (memory : signature.Memory) {parser parser' : Parser signature A}
      (inner : Regroups parser parser') : Regroups (.fresh memory parser) (.fresh memory parser')

def Grammar.Regroups (grammar grammar' : Grammar signature) : Prop :=
  ∀ rule, (grammar rule).Regroups (grammar' rule)

/-- Only such a parser converts failures. -/
def Parser.ConvertsFailures : Parser signature A → Prop
  | .mapError _ _ => True
  | _ => False

/-- A label may take the place of another one. -/
theorem Parser.Regroups.relabel {parser parser' : Parser signature A}
    (regroups : parser.Regroups parser') (name name' : String) :
    (Parser.label name parser).Regroups (.label name' parser') :=
  .label name (Regroups.label name' regroups.symm).symm

/-- Without conversions of failures nothing has to change. -/
theorem Parser.Regroups.refl {parser : Parser signature A}
    (keeps : parser.Everywhere fun _ part => ¬ part.ConvertsFailures) : parser.Regroups parser := by
  induction parser with
  | leaf wanted => exact .leaf wanted
  | function run => exact .function run
  | succeed value => exact .succeed value
  | fail reason => exact .fail reason
  | map convert parser inner => exact .map convert (inner keeps.2)
  | chain parser next inner nextInner =>
      exact .chain (inner keeps.2.1) fun value => nextInner value (keeps.2.2 value)
  | ap applied argument inner argumentInner =>
      exact .ap (inner keeps.2.1) (argumentInner keeps.2.2)
  | mapError convert parser inner => exact absurd trivial keeps.1
  | label name parser inner => exact (inner keeps.2).relabel name name
  | parseAs reader parser inner => exact .parseAs reader (inner keeps.2)
  | sequence parts inner => exact .sequence fun part => inner part (keeps.2 part)
  | sequenceList parts inner => exact .sequenceList fun part => inner part (keeps.2 part)
  | choice alternatives inner => exact .choice fun index => inner index (keeps.2 index)
  | many parser inner => exact .many (inner keeps.2)
  | manyOne parser inner => exact .manyOne (inner keeps.2)
  | sepBy separator item inner itemInner => exact .sepBy (inner keeps.2.1) (itemInner keeps.2.2)
  | optional parser inner => exact .optional (inner keeps.2)
  | rule name => exact .rule name
  | fresh memory parser inner => exact .fresh memory (inner keeps.2)

/-- Failures with the same leaves are alike. -/
def Likeness.sameLeaves (medium : Medium) : Likeness medium :=
  ⟨Eq, fun reason reason' => reason.leaves = reason'.leaves⟩

namespace Outcome.Alike

variable {first second third : Outcome medium Memory A}

theorem symm (alike : first.Alike (.sameLeaves medium) second) :
    second.Alike (.sameLeaves medium) first := by
  cases alike with
  | unfinished => exact .unfinished
  | fault problem => exact .fault problem
  | failure leaves memories => exact .failure leaves.symm memories.symm
  | success cursors value memories => exact .success cursors.symm value memories.symm

theorem trans (alike : first.Alike (.sameLeaves medium) second)
    (alike' : second.Alike (.sameLeaves medium) third) :
    first.Alike (.sameLeaves medium) third := by
  cases alike with
  | unfinished => exact alike'
  | fault problem => exact alike'
  | failure leaves memories =>
      cases alike' with
      | failure leaves' memories' =>
          exact .failure (leaves.trans leaves') (memories.trans memories')
  | success cursors value memories =>
      cases alike' with
      | success cursors' _ memories' =>
          exact .success (cursors.trans cursors') value (memories.trans memories')

end Outcome.Alike

namespace Failure

/-- Both lists are empty or none of them is, and together they have the same leaves. -/
structure SameLeaves (failures failures' : List Failure) : Prop where
  empty : failures = [] ↔ failures' = []
  leaves : failures.flatMap leaves = failures'.flatMap leaves

/-- A failure with causes has their leaves. -/
theorem leaves_choiceFailure {failures : List Failure} (some : failures ≠ []) (index : Nat) :
    (Behaviour.choiceFailure index failures).leaves = failures.flatMap leaves := by
  rcases failures with _ | ⟨first, _ | ⟨second, others⟩⟩
  · exact absurd rfl some
  · exact (List.flatMap_singleton ..).symm
  · exact leavesOfAll_eq_flatMap _

theorem SameLeaves.leaves_choiceFailure {failures failures' : List Failure}
    (same : SameLeaves failures failures') (index : Nat) :
    (Behaviour.choiceFailure index failures).leaves =
      (Behaviour.choiceFailure index failures').leaves := by
  by_cases none : failures = []
  · rw [none, same.empty.mp none]
  · rw [Failure.leaves_choiceFailure none, same.leaves,
      Failure.leaves_choiceFailure (mt same.empty.mpr none)]

theorem sameLeaves_of_forall₂ {failures failures' : List Failure}
    (alike : List.Forall₂ (Likeness.sameLeaves medium).failures failures failures') :
    SameLeaves failures failures' := by
  induction alike with
  | nil => exact ⟨Iff.rfl, rfl⟩
  | cons head tail inductionHypothesis =>
      refine ⟨iff_of_false (List.cons_ne_nil _ _) (List.cons_ne_nil _ _), ?_⟩
      rw [List.flatMap_cons, List.flatMap_cons, inductionHypothesis.leaves]
      exact congrArg (· ++ _) head

/-- One failure stands for all failures of a group. -/
theorem SameLeaves.append_group {failures failures' group group' : List Failure}
    (same : SameLeaves failures failures')
    (alike : List.Forall₂ (Likeness.sameLeaves medium).failures group group') (some : group ≠ [])
    (index : Nat) :
    SameLeaves (failures ++ group) (failures' ++ [Behaviour.choiceFailure index group']) where
  empty := by simp [some]
  leaves := by
    have groupSame := sameLeaves_of_forall₂ alike
    rw [List.flatMap_append, List.flatMap_append, List.flatMap_singleton, same.leaves,
      groupSame.leaves, Failure.leaves_choiceFailure (mt groupSame.empty.mpr some)]

end Failure

/-- The failure may be handled at once or later. -/
theorem Outcome.orElse_orElse (outcome : Outcome medium Memory A)
    (handle handle' : Failure → Session Memory → Outcome medium Memory A) :
    (outcome.orElse handle).orElse handle' =
      outcome.orElse fun reason session => (handle reason session).orElse handle' := by
  cases outcome <;> rfl

namespace Behaviour

/-- The attempts of a group are those that would be made without it. When they have all failed, what
goes on is handed a single failure. -/
theorem attempt_append_alike {group others : List (Behaviour medium Memory A)}
    (alike : ∀ alternative ∈ group, alternative.Alike (.sameLeaves medium) alternative)
    (failures inner : List Failure) (cursor : Cursor medium) (session session' : Session Memory)
    (memories : session.memory = session'.memory)
    {handle : Failure → Session Memory → Outcome medium Memory A}
    (onFailure : ∀ more more', List.Forall₂ (Likeness.sameLeaves medium).failures more more' →
      more.length = group.length → ∀ later later' : Session Memory, later.memory = later'.memory →
        (attempt (failures ++ more) others cursor later).Alike (.sameLeaves medium)
          (handle (choiceFailure cursor.index (inner ++ more')) later')) :
    (attempt failures (group ++ others) cursor session).Alike (.sameLeaves medium)
      ((attempt inner group cursor session').orElse handle) := by
  induction group generalizing failures inner session session' with
  | nil =>
      have exhausted := onFailure [] [] .nil rfl session
        (session'.record cursor.index .choiceFailed
          (.failed (choiceFailure cursor.index inner))) memories
      rw [List.append_nil, List.append_nil] at exhausted
      exact exhausted
  | cons first group inductionHypothesis =>
      obtain ⟨firstAlike, groupAlike⟩ := List.forall_mem_cons.mp alike
      show ((first cursor session).orElse fun reason later =>
          attempt (failures ++ [reason]) (group ++ others) cursor later).Alike _
        (((first cursor session').orElse fun reason later =>
          attempt (inner ++ [reason]) group cursor later).orElse handle)
      rw [Outcome.orElse_orElse]
      apply (firstAlike cursor cursor rfl session session' memories).orElse
      intro reason reason' later later' leaves laterMemories
      apply inductionHypothesis groupAlike _ _ _ _ laterMemories
      intro more more' moreAlike length
      rw [List.append_assoc, List.append_assoc]
      exact onFailure (reason :: more) (reason' :: more') (.cons leaves moreAlike)
        (congrArg Nat.succ length)

/-- The alternatives are attempted in the same order in their groups. -/
theorem attempt_flatten_alike {groups : List (List (Behaviour medium Memory A))}
    (inhabited : ∀ group ∈ groups, group ≠ [])
    (alike : ∀ alternative ∈ groups.flatten, alternative.Alike (.sameLeaves medium) alternative)
    {failures failures' : List Failure} (same : Failure.SameLeaves failures failures') :
    (attempt failures groups.flatten).Alike (.sameLeaves medium)
      (attempt failures' (groups.map choice)) := by
  induction groups generalizing failures failures' with
  | nil =>
      intro cursor _ cursors session session' memories
      obtain rfl := cursors
      exact .failure (same.leaves_choiceFailure cursor.index) memories
  | cons group groups inductionHypothesis =>
      obtain ⟨groupInhabited, othersInhabited⟩ := List.forall_mem_cons.mp inhabited
      rw [List.flatten_cons] at alike ⊢
      obtain ⟨groupAlike, othersAlike⟩ := List.forall_mem_append.mp alike
      intro cursor _ cursors session session' memories
      obtain rfl := cursors
      let started := session'.record cursor.index (.choice group.length) .began
      show Outcome.Alike _ (attempt failures (group ++ groups.flatten) cursor session)
        ((attempt [] group cursor started).orElse fun reason later =>
          attempt (failures' ++ [reason]) (groups.map choice) cursor later)
      apply attempt_append_alike groupAlike failures [] cursor session started memories
      intro more more' moreAlike length later later' laterMemories
      have some : more ≠ [] := by
        intro none
        rw [none] at length
        exact groupInhabited (List.length_eq_zero_iff.mp length.symm)
      exact inductionHypothesis othersInhabited othersAlike
        (same.append_group moreAlike some cursor.index) cursor cursor rfl later later' laterMemories

namespace Alike

variable {first second third : Behaviour medium Memory A}

theorem symm (alike : first.Alike (.sameLeaves medium) second) :
    second.Alike (.sameLeaves medium) first := by
  intro cursor cursor' cursors session session' memories
  exact (alike cursor' cursor cursors.symm session' session memories.symm).symm

theorem trans (alike : first.Alike (.sameLeaves medium) second)
    (alike' : second.Alike (.sameLeaves medium) third) :
    first.Alike (.sameLeaves medium) third := by
  intro cursor cursor' cursors session session' memories
  exact (alike cursor cursor rfl session session rfl).trans
    (alike' cursor cursor' cursors session session' memories)

theorem choice {count : Nat} {alternatives alternatives' : Fin count → Behaviour medium Memory A}
    (alike : ∀ index, (alternatives index).Alike (.sameLeaves medium) (alternatives' index)) :
    (Behaviour.choice (List.ofFn alternatives)).Alike (.sameLeaves medium)
      (Behaviour.choice (List.ofFn alternatives')) := by
  refine (attempt alike ?_ .nil).announce _ _
  intro cursor cursor' failures failures' cursors failuresAlike
  obtain rfl := cursors
  exact (Failure.sameLeaves_of_forall₂ failuresAlike).leaves_choiceFailure cursor.index

theorem choice_flatten {groups : List (List (Behaviour medium Memory A))}
    (inhabited : ∀ group ∈ groups, group ≠ [])
    (alike : ∀ alternative ∈ groups.flatten, alternative.Alike (.sameLeaves medium) alternative) :
    (Behaviour.choice groups.flatten).Alike (.sameLeaves medium)
      (Behaviour.choice (groups.map Behaviour.choice)) :=
  (attempt_flatten_alike inhabited alike ⟨Iff.rfl, rfl⟩).announce _ _

end Alike

end Behaviour

section

variable {call : (rule : signature.Rule) →
    Behaviour signature.medium signature.Memory (signature.result rule)}
  {fuel : Nat}

theorem Parser.behaviour_choiceOf (alternatives : List (Parser signature A)) :
    (choiceOf alternatives).behaviour call fuel =
      .choice (alternatives.map (behaviour call fuel)) := by
  have same : List.ofFn (fun index => (alternatives.get index).behaviour call fuel) =
      alternatives.map (behaviour call fuel) := by
    rw [← List.ofFn_get alternatives, List.map_ofFn, List.ofFn_get]
    rfl
  rw [choiceOf, behaviour, same]

theorem Parser.behaviour_choice_of_split {count : Nat}
    {alternatives : Fin count → Parser signature A}
    {groups : List (List (Parser signature A))} (split : groups.flatten = List.ofFn alternatives) :
    (choice alternatives).behaviour call fuel =
      .choice (groups.map (List.map (behaviour call fuel))).flatten := by
  rw [← List.map_flatten, split, List.map_ofFn]
  rfl

theorem Parser.behaviour_groups (groups : List (List (Parser signature A))) :
    (choiceOf (groups.map choiceOf)).behaviour call fuel =
      .choice ((groups.map (List.map (behaviour call fuel))).map .choice) := by
  rw [behaviour_choiceOf, List.map_map, List.map_map]
  exact congrArg _ (List.map_congr_left fun _ _ => behaviour_choiceOf _)

end

/-- Where the rules have like behaviours, regrouped parsers have. -/
theorem Parser.Regroups.behaviour_alike {parser parser' : Parser signature A}
    (regroups : parser.Regroups parser')
    {call call' : (rule : signature.Rule) →
      Behaviour signature.medium signature.Memory (signature.result rule)}
    (calls : ∀ rule, (call rule).Alike (.sameLeaves _) (call' rule)) (fuel : Nat) :
    (parser.behaviour call fuel).Alike (.sameLeaves _) (parser'.behaviour call' fuel) := by
  induction regroups generalizing call call' with
  | label name _ alike => exact (alike calls).label_left fun _ _ _ _ _ leaves => leaves
  | @group A count alternatives groups split inhabited _ alike =>
      have again (rule : signature.Rule) : (call' rule).Alike (.sameLeaves _) (call' rule) :=
        (calls rule).symm.trans (calls rule)
      -- First the calls of the rules change, and then the alternatives are grouped.
      refine (Behaviour.Alike.choice fun index => alike index calls).trans ?_
      show ((Parser.choice alternatives).behaviour call' fuel).Alike _ _
      rw [behaviour_choice_of_split split, behaviour_groups]
      apply Behaviour.Alike.choice_flatten
      · intro group member
        obtain ⟨original, isGroup, rfl⟩ := List.mem_map.mp member
        exact mt List.map_eq_nil_iff.mp (inhabited original isGroup)
      · rw [← List.map_flatten, split, List.map_ofFn]
        exact List.forall_mem_ofFn_iff.mpr fun index => alike index again
  | symm _ alike => exact (alike fun rule => (calls rule).symm).symm
  | trans _ _ alike alike' =>
      exact (alike calls).trans (alike' fun rule => (calls rule).symm.trans (calls rule))
  | leaf wanted =>
      apply Behaviour.Alike.leaf
      rintro cursor _ rfl
      exact .refl (fun _ => rfl) (fun _ => rfl) _
  | function run =>
      apply Behaviour.Alike.function
      rintro cursor _ rfl memory
      exact ⟨.refl (fun _ => rfl) (fun _ => rfl) _, rfl⟩
  | succeed value => exact .succeed value
  | fail reason => exact .fail rfl
  | map convert _ alike => exact (alike calls).map convert
  | chain _ _ alike nextAlike => exact (alike calls).chain fun value => nextAlike value calls
  | ap _ _ alike argumentAlike => exact (alike calls).ap (argumentAlike calls)
  | parseAs reader _ alike =>
      apply (alike calls).parseAs
      rintro cursor _ text rfl
      rfl
  | sequence _ alike => exact (Behaviour.Alike.tuple fun part => alike part calls).announce _ _
  | sequenceList _ alike => exact (Behaviour.Alike.row fun part => alike part calls).announce _ _
  | choice _ alike => exact .choice fun index => alike index calls
  | many _ alike => exact (alike calls).many fuel
  | manyOne _ alike => exact (alike calls).manyOne fuel fun _ _ _ _ _ leaves => leaves
  | sepBy _ _ alike itemAlike => exact (alike calls).sepBy (itemAlike calls) fuel
  | optional _ alike => exact (alike calls).optional
  | rule name => exact (calls name).announce _ _
  | fresh memory _ alike => exact (alike calls).fresh memory

theorem Grammar.Regroups.call_alike {grammar grammar' : Grammar signature}
    (regroups : grammar.Regroups grammar') (fuel : Nat) (rule : signature.Rule) :
    (grammar.call fuel rule).Alike (.sameLeaves _) (grammar'.call fuel rule) := by
  induction fuel generalizing rule with
  | zero => exact fun _ _ _ _ _ _ => .unfinished
  | succ fuel inductionHypothesis =>
      exact (regroups rule).behaviour_alike inductionHypothesis fuel

theorem Grammar.Regroups.outcome_alike {grammar grammar' : Grammar signature}
    (rulesRegroup : grammar.Regroups grammar') {parser parser' : Parser signature A}
    (regroups : parser.Regroups parser') (fuel : Nat) (cursor : Cursor signature.medium)
    (session : Session signature.Memory) :
    (grammar.outcome fuel parser cursor session).Alike (.sameLeaves _)
      (grammar'.outcome fuel parser' cursor session) :=
  regroups.behaviour_alike (rulesRegroup.call_alike fuel) fuel cursor cursor rfl session session rfl

namespace Grammar

variable {grammar grammar' : Grammar signature} {parser parser' : Parser signature A}
  {cursor : Cursor signature.medium} {session session' : Session signature.Memory}

/-- Labels and the grouping of alternatives do not change which leaf failures are reported. Both
parsers succeed together, at the same cursor with the same value, or they fail together with the
same leaves in the same order, or they diverge together. -/
theorem regrouped_leaves_eq (rulesRegroup : grammar.Regroups grammar')
    (regroups : parser.Regroups parser') (cursor : Cursor signature.medium)
    (session : Session signature.Memory) :
    (∀ next value, grammar.Succeeds parser cursor session next value ↔
      grammar'.Succeeds parser' cursor session next value) ∧
    (grammar.Fails parser cursor session ↔ grammar'.Fails parser' cursor session) ∧
    (grammar.Diverges parser cursor session ↔ grammar'.Diverges parser' cursor session) ∧
    ∀ reason reason', grammar.FailsWith parser cursor session reason →
      grammar'.FailsWith parser' cursor session reason' →
        reason.leaves = reason'.leaves ∧
          (reason.leaves ≠ [] → reason.furthest = reason'.furthest) := by
  have alike (fuel : Nat) := rulesRegroup.outcome_alike regroups fuel cursor session
  refine ⟨fun _ _ => succeeds_iff_of_alike (fun _ _ => id) alike, fails_iff_of_alike alike,
    diverges_iff_of_alike alike, ?_⟩
  intro reason reason' fails fails'
  obtain ⟨_, leaves, known⟩ := failsWith_of_alike alike fails
  obtain rfl := known.unique fails'
  exact ⟨leaves, Failure.furthest_eq_of_leaves_eq leaves⟩

end Grammar

end

namespace Tokens

open ParserCombinators.Parser

def number : Parser signature Token :=
  map Token.number (parseAs (Reader.signed "i64" 64) digits)

def word : Parser signature Token := map Token.word (leaf (.pattern wordPattern))

/-- A token where each alternative has a label and is alone in its group. -/
def labelledToken : Parser signature Token :=
  label "token" (choiceOf [choiceOf [label "number" number], choiceOf [label "word" word]])

theorem token_regroups : token.Regroups labelledToken := by
  have numberKeeps : number.Regroups number :=
    .refl (by simp [number, digits, Everywhere, ConvertsFailures])
  have wordKeeps : word.Regroups word := .refl (by simp [word, Everywhere, ConvertsFailures])
  let alternatives := [label "number" number, label "word" word]
  have labelled : token.Regroups (choiceOf alternatives) :=
    .choice (Fin.forall_fin_two.mpr
      ⟨(Regroups.label "number" numberKeeps).symm, (Regroups.label "word" wordKeeps).symm⟩)
  have keep : ∀ index, (alternatives.get index).Regroups (alternatives.get index) :=
    Fin.forall_fin_two.mpr ⟨numberKeeps.relabel "number" "number", wordKeeps.relabel "word" "word"⟩
  have grouped := Regroups.group [[label "number" number], [label "word" word]]
    (List.ofFn_get alternatives).symm (by simp) keep
  exact labelled.trans (grouped.trans (Regroups.label "token" (grouped.symm.trans grouped)).symm)

/-- Text that is no token has the same two leaves with and without labels and groups. -/
theorem labelledToken_leaves_eq :
    grammar.Regroups grammar ∧ token.Regroups labelledToken ∧
      ∃ reason reason', grammar.FailsWith token (.ofText "!") (.initial ()) reason ∧
        grammar.FailsWith labelledToken (.ofText "!") (.initial ()) reason' ∧
          reason.leaves = reason'.leaves ∧ reason.leaves.length = 2 ∧
            reason.furthest = reason'.furthest := by
  have rules : grammar.Regroups grammar := nofun
  have flat : ∃ reason, grammar.FailsWith token (.ofText "!") (.initial ()) reason ∧
      reason.leaves.length = 2 := ⟨_, ⟨1, _, rfl⟩, rfl⟩
  have grouped : ∃ reason', grammar.FailsWith labelledToken (.ofText "!") (.initial ()) reason' :=
    ⟨_, 1, _, rfl⟩
  obtain ⟨reason, fails, two⟩ := flat
  obtain ⟨reason', fails'⟩ := grouped
  obtain ⟨_, _, _, report⟩ :=
    Grammar.regrouped_leaves_eq rules token_regroups (.ofText "!") (.initial ())
  obtain ⟨leaves, furthest⟩ := report reason reason' fails fails'
  refine ⟨rules, token_regroups, reason, reason', fails, fails', leaves, two, furthest ?_⟩
  intro none
  rw [none] at two
  cases two

end Tokens

end ParserCombinators
