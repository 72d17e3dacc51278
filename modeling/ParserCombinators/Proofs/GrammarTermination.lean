/-
This file shows that every parse over a well-formed grammar returns, and how much fuel is enough.
-/

import Mathlib.Data.Set.Card
import ParserCombinators.Proofs.GrammarSafety
import ParserCombinators.Proofs.Termination

namespace ParserCombinators

variable {signature : Signature}

/-- A ranking bounds how many calls may follow one another before anything is read. -/
structure Grammar.Ranking (grammar : Grammar signature) (bound : Nat) where
  rank : signature.Rule → Nat
  bounded : ∀ rule, rank rule < bound
  decreases : ∀ {rule called}, grammar.CallsLeft rule called → rank called < rank rule

section

variable {grammar : Grammar signature} {bound : Nat}

/-- The fuel pays for the calls of every rank at every element that is left to read, and for the
calls on the left that come before the first element. -/
def Parser.FinishesByRank (ranking : grammar.Ranking bound)
    (call : (rule : signature.Rule) →
      Behaviour signature.medium signature.Memory (signature.result rule))
    (fuel : Nat) {A : Type} (parser : Parser signature A) : Prop :=
  ∀ limit above, (∀ rule, parser.CallsLeft grammar rule → ranking.rank rule < above) →
    limit * bound + above < fuel → (parser.behaviour call fuel).Finishes (limit + 1)

/-- A parser that only wraps another one calls no other rules on the left. -/
theorem Parser.FinishesByRank.wrap {ranking : grammar.Ranking bound}
    {call : (rule : signature.Rule) →
      Behaviour signature.medium signature.Memory (signature.result rule)}
    {fuel : Nat} {A B : Type} {parser : Parser signature A} {wrapped : Parser signature B}
    (finishes : parser.FinishesByRank ranking call fuel)
    (calls : ∀ rule, parser.CallsLeft grammar rule → wrapped.CallsLeft grammar rule)
    (wraps : ∀ limit, (parser.behaviour call fuel).Finishes limit →
      (wrapped.behaviour call fuel).Finishes limit) : wrapped.FinishesByRank ranking call fuel := by
  intro limit above wrappedCalls enough
  apply wraps
  exact finishes limit above (fun rule callsLeft => wrappedCalls rule (calls rule callsLeft)) enough

/-- A parser that does not stand on the left may call rules of every rank. -/
theorem Parser.FinishesByRank.later {ranking : grammar.Ranking bound}
    {call : (rule : signature.Rule) →
      Behaviour signature.medium signature.Memory (signature.result rule)}
    {fuel : Nat} {A : Type} {parser : Parser signature A}
    (finishes : parser.FinishesByRank ranking call fuel) {limit above : Nat}
    (enough : limit * bound + above < fuel) : (parser.behaviour call fuel).Finishes limit := by
  cases limit with
  | zero => exact .none
  | succ limit =>
      have every : ∀ rule, parser.CallsLeft grammar rule → ranking.rank rule < bound :=
        fun rule _ => ranking.bounded rule
      rw [Nat.succ_mul] at enough
      exact finishes limit bound every (by omega)

theorem Grammar.Ranking.bound_pos (ranking : grammar.Ranking bound) (rule : signature.Rule) :
    0 < bound := Nat.lt_of_le_of_lt (Nat.zero_le _) (ranking.bounded rule)

end

/-- When calls finish by their ranks, every parser does. -/
theorem Parser.behaviour_finishes {grammar : Grammar signature} {bound fuel : Nat}
    (positive : 0 < bound) (ranking : grammar.Ranking bound)
    {call : (rule : signature.Rule) →
      Behaviour signature.medium signature.Memory (signature.result rule)}
    (callSafe : ∀ rule, (call rule).Safe .any ((grammar rule).Nullable grammar))
    (callFinishes : ∀ rule limit, limit * bound + ranking.rank rule + 1 < fuel →
      (call rule).Finishes (limit + 1))
    {A : Type} {parser : Parser signature A} (lawful : parser.Lawful)
    (productive : parser.Productive grammar) : parser.FinishesByRank ranking call fuel := by
  induction parser with
  | leaf wanted => exact fun _ _ _ _ => .leaf wanted
  | function run => exact fun _ _ _ _ => .function run
  | succeed value => exact fun _ _ _ _ => .succeed value
  | fail reason => exact fun _ _ _ _ => .fail reason
  | map convert parser finishes =>
      exact (finishes lawful.2 productive.2).wrap (fun _ => .map convert)
        fun _ inner => inner.map convert
  | chain parser next finishes nextFinishes =>
      intro limit above calls enough
      have safe := Parser.behaviour_safe grammar callSafe fuel lawful.2.1
      have first := finishes lawful.2.1 productive.2.1 limit above
        (fun rule callsLeft => calls rule (.chainFirst next callsLeft)) enough
      have follows := fun value => nextFinishes value (lawful.2.2 value) (productive.2.2 value)
      refine first.chain safe (fun value => (follows value).later enough) fun stays value => ?_
      exact follows value limit above
        (fun rule callsLeft => calls rule (.chainNext stays callsLeft)) enough
  | ap applied argument finishes argumentFinishes =>
      intro limit above calls enough
      have safe := Parser.behaviour_safe grammar callSafe fuel lawful.2.1
      have first := finishes lawful.2.1 productive.2.1 limit above
        (fun rule callsLeft => calls rule (.apFirst argument callsLeft)) enough
      have follows := argumentFinishes lawful.2.2 productive.2.2
      refine first.ap safe (follows.later enough) fun stays => ?_
      exact follows limit above
        (fun rule callsLeft => calls rule (.apArgument stays callsLeft)) enough
  | mapError convert parser finishes =>
      exact (finishes lawful.2 productive.2).wrap (fun _ => .mapError convert)
        fun _ inner => inner.mapError convert
  | label name parser finishes =>
      exact (finishes lawful.2 productive.2).wrap (fun _ => .label name)
        fun _ inner => inner.label name
  | parseAs reader parser finishes =>
      exact (finishes lawful.2 productive.2).wrap (fun _ => .parseAs reader)
        fun _ inner => inner.parseAs reader
  | sequence parts finishes =>
      intro limit above calls enough
      have safe := fun part => Parser.behaviour_safe grammar callSafe fuel (lawful.2 part)
      have follows := fun part => finishes part (lawful.2 part) (productive.2 part)
      have parted := Behaviour.Finishes.tuple safe (fun part => (follows part).later enough)
        fun part before => follows part limit above
          (fun rule callsLeft => calls rule (.sequence before callsLeft)) enough
      exact parted.announce _
  | sequenceList parts finishes =>
      intro limit above calls enough
      have safe := fun part => Parser.behaviour_safe grammar callSafe fuel (lawful.2 part)
      have follows := fun part => finishes part (lawful.2 part) (productive.2 part)
      have parted := Behaviour.Finishes.row safe (fun part => (follows part).later enough)
        fun part before => follows part limit above
          (fun rule callsLeft => calls rule (.sequenceList before callsLeft)) enough
      exact parted.announce _
  | choice alternatives finishes =>
      intro limit above calls enough
      have attempted := Behaviour.Finishes.attempt
        (fun index => finishes index (lawful.2 index) (productive.2 index) limit above
          (fun rule callsLeft => calls rule (.choice callsLeft)) enough) []
      exact attempted.announce _
  | many parser finishes =>
      intro limit above calls enough
      have safe := Parser.behaviour_safe grammar callSafe fuel lawful.2
      have inner := finishes lawful.2 productive.2 limit above
        (fun rule callsLeft => calls rule (.many callsLeft)) enough
      have scaled := Nat.le_mul_of_pos_right limit positive
      exact inner.many safe productive.1 (by omega)
  | manyOne parser finishes =>
      intro limit above calls enough
      have safe := Parser.behaviour_safe grammar callSafe fuel lawful.2
      have inner := finishes lawful.2 productive.2 limit above
        (fun rule callsLeft => calls rule (.manyOne callsLeft)) enough
      have scaled := Nat.le_mul_of_pos_right limit positive
      exact inner.manyOne safe productive.1 (by omega)
  | sepBy separator item finishes itemFinishes =>
      intro limit above calls enough
      have safe := Parser.behaviour_safe grammar callSafe fuel lawful.2.1
      have itemSafe := Parser.behaviour_safe grammar callSafe fuel lawful.2.2
      have follows := finishes lawful.2.1 productive.2.1
      have first := itemFinishes lawful.2.2 productive.2.2 limit above
        (fun rule callsLeft => calls rule (.sepByItem separator callsLeft)) enough
      have scaled := Nat.le_mul_of_pos_right limit positive
      refine .sepBy safe itemSafe productive.1 (follows.later enough) (fun stays => ?_) first
        (by omega)
      exact follows limit above
        (fun rule callsLeft => calls rule (.sepBySeparator stays callsLeft)) enough
  | optional parser finishes =>
      exact (finishes lawful.2 productive.2).wrap (fun _ => .optional) fun _ inner => inner.optional
  | rule name =>
      intro limit above calls enough
      have lower := calls name .rule
      have called := callFinishes name limit (by omega)
      exact called.announce _
  | fresh memory parser finishes =>
      exact (finishes lawful.2 productive.2).wrap (fun _ => .fresh memory)
        fun _ inner => inner.fresh memory

section

variable {grammar : Grammar signature} {bound : Nat}

/-- A call needs one unit of fuel more than the calls on the left in the body of its rule. -/
theorem Grammar.call_finishes (lawful : grammar.Lawful)
    (productive : ∀ rule, (grammar rule).Productive grammar) (ranking : grammar.Ranking bound)
    {fuel : Nat} (rule : signature.Rule) (limit : Nat)
    (enough : limit * bound + ranking.rank rule + 1 < fuel) :
    (grammar.call fuel rule).Finishes (limit + 1) := by
  induction fuel generalizing rule limit with
  | zero => omega
  | succ fuel inductionHypothesis =>
      have finishes := Parser.behaviour_finishes (ranking.bound_pos rule) ranking
        (Grammar.call_safe lawful fuel) inductionHypothesis (lawful rule) (productive rule)
      exact finishes limit (ranking.rank rule) (fun _ => ranking.decreases) (by omega)

theorem Grammar.outcome_finishes (lawful : grammar.Lawful)
    (productive : ∀ rule, (grammar rule).Productive grammar) (positive : 0 < bound)
    (ranking : grammar.Ranking bound) {A : Type} {parser : Parser signature A}
    (parserLawful : parser.Lawful) (parserProductive : parser.Productive grammar) (fuel : Nat) :
    parser.FinishesByRank ranking (grammar.call fuel) fuel :=
  Parser.behaviour_finishes positive ranking (Grammar.call_safe lawful fuel)
    (Grammar.call_finishes lawful productive ranking) parserLawful parserProductive

/-- Where no rule calls another one on the left, all calls have the lowest rank. -/
def Grammar.lowestRanking (noCalls : ∀ rule called, ¬ grammar.CallsLeft rule called) :
    grammar.Ranking 1 where
  rank _ := 0
  bounded _ := Nat.one_pos
  decreases calls := (noCalls _ _ calls).elim

/-- Without calls on the left, one unit of fuel for each element to read is enough. -/
theorem Grammar.outcome_finishes_of_noCalls (lawful : grammar.Lawful)
    (productive : ∀ rule, (grammar rule).Productive grammar)
    (noCalls : ∀ rule called, ¬ grammar.CallsLeft rule called) {A : Type}
    {parser : Parser signature A} (parserLawful : parser.Lawful)
    (parserProductive : parser.Productive grammar)
    (parserNoCalls : ∀ called, ¬ parser.CallsLeft grammar called) {fuel limit : Nat}
    (enough : limit < fuel) : (grammar.outcome fuel parser).Finishes (limit + 1) := by
  have finishes := Grammar.outcome_finishes lawful productive Nat.one_pos
    (grammar.lowestRanking noCalls) parserLawful parserProductive fuel
  exact finishes limit 0 (fun called calls => (parserNoCalls called calls).elim) (by omega)

end

/-- The rank of a rule is the number of rules that it reaches on the left. -/
noncomputable def Grammar.WellFormed.ranking [Finite signature.Rule]
    {grammar : Grammar signature} (wellFormed : grammar.WellFormed) :
    grammar.Ranking (Nat.card signature.Rule + 1) where
  rank rule := {called | Relation.TransGen grammar.CallsLeft rule called}.ncard
  bounded rule := Nat.lt_succ_of_le (Set.ncard_le_card _)
  decreases := by
    intro rule called calls
    have fewer : {reached | Relation.TransGen grammar.CallsLeft called reached} ⊆
        {reached | Relation.TransGen grammar.CallsLeft rule reached} := by
      intro reached reaches
      exact .head calls reaches
    refine Set.ncard_lt_ncard ((Set.ssubset_iff_of_subset fewer).mpr ?_) (Set.toFinite _)
    exact ⟨called, .single calls, wellFormed.notLeftRecursive called⟩

/-- Every parse over a well-formed grammar of finitely many rules returns. It is enough to allow
for as many nested calls and rounds at every element as there are rules. -/
theorem Grammar.WellFormed.outcome_returned [Finite signature.Rule] {grammar : Grammar signature}
    (wellFormed : grammar.WellFormed) (lawful : grammar.Lawful) {A : Type}
    {parser : Parser signature A} (productive : parser.Productive grammar)
    (parserLawful : parser.Lawful) {cursor : Cursor signature.medium} (valid : cursor.Valid)
    {fuel : Nat} (enough : (cursor.rest.length + 1) * (Nat.card signature.Rule + 1) < fuel)
    (session : Session signature.Memory) :
    (grammar.outcome fuel parser cursor session).Returned := by
  have safe := Grammar.outcome_safe lawful parserLawful fuel cursor valid session
  have finishes := Grammar.outcome_finishes lawful wellFormed.productive (Nat.succ_pos _)
    wellFormed.ranking parserLawful productive fuel
  rw [Nat.succ_mul] at enough
  apply safe.returned
  exact finishes cursor.rest.length _ (fun rule _ => wellFormed.ranking.bounded rule) enough cursor
    valid (Nat.lt_succ_self _) session

namespace BracketTree

instance : Unique Rule where
  default := .node
  uniq rule := by cases rule; rfl

/-- A node begins with a bracket. -/
theorem node_not_nullable : ¬ node.Nullable grammar := by
  intro nullable
  have opening := (Parser.nullable_between.mp (Parser.nullable_iff.mp nullable)).1
  have empty : "[" = "" := Parser.nullable_iff.mp opening
  exact absurd empty (by decide)

/-- Behind its first bracket a node calls nothing on the left. -/
theorem node_not_callsLeft (called : Rule) : ¬ node.CallsLeft grammar called := by
  intro calls
  rcases Parser.callsLeft_between.mp (Parser.callsLeft_iff.mp calls) with
    opening | ⟨nullable, _⟩ | ⟨nullable, _⟩
  · exact Parser.callsLeft_iff.mp opening
  · have empty : "[" = "" := Parser.nullable_iff.mp nullable
    exact absurd empty (by decide)
  · have empty : "[" = "" := Parser.nullable_iff.mp nullable
    exact absurd empty (by decide)

theorem grammar_wellFormed : grammar.WellFormed where
  productive rule := by
    cases rule
    have moves : ¬ (Parser.rule Rule.node).Nullable grammar := fun nullable =>
      node_not_nullable (Parser.nullable_iff.mp nullable)
    simpa [grammar, node, bracket, Parser.between, Parser.Productive, Parser.Everywhere,
      Parser.RoundsMove, Fin.forall_fin_succ] using moves
  notLeftRecursive rule reaches := by
    obtain ⟨called, calls, _⟩ := Relation.TransGen.head'_iff.mp reaches
    cases rule
    exact node_not_callsLeft called calls

theorem nested_brackets_returned :
    grammar.WellFormed ∧ grammar.Lawful ∧ (Cursor.ofText "[[]]").Valid ∧
      (4 + 1) * (Nat.card Rule + 1) < 11 ∧
      (grammar.outcome 11 node (Cursor.ofText "[[]]") (.initial ())).Returned := by
  have valid : (Cursor.ofText "[[]]").Valid := ⟨Nat.zero_le _, by decide⟩
  have enough : ((Cursor.ofText "[[]]").rest.length + 1) * (Nat.card Rule + 1) < 11 := by
    rw [Nat.card_unique]
    decide
  exact ⟨grammar_wellFormed, grammar_lawful, valid, enough,
    grammar_wellFormed.outcome_returned grammar_lawful (grammar_wellFormed.productive .node)
      (grammar_lawful .node) valid enough (.initial ())⟩

end BracketTree

end ParserCombinators
