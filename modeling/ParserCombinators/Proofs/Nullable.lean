/-
This file says which parsers may succeed without moving, which rules a parser may call before it
has moved, and which grammars are well formed.
-/

import ParserCombinators.Parser.Basic
import ParserCombinators.Proofs.Reading

namespace ParserCombinators

variable {signature : Signature}

/-- The property holds of a parser and of every parser that it is built from. -/
def Parser.Everywhere (property : (A : Type) → Parser signature A → Prop) :
    {A : Type} → Parser signature A → Prop
  | _, .leaf wanted => property _ (.leaf wanted)
  | _, .function run => property _ (.function run)
  | _, .succeed value => property _ (.succeed value)
  | A, .fail reason => property A (.fail reason)
  | _, .map convert parser => property _ (.map convert parser) ∧ parser.Everywhere property
  | _, .chain parser next =>
      property _ (.chain parser next) ∧ parser.Everywhere property ∧
        ∀ value, (next value).Everywhere property
  | _, .ap applied argument =>
      property _ (.ap applied argument) ∧ applied.Everywhere property ∧
        argument.Everywhere property
  | _, .mapError convert parser =>
      property _ (.mapError convert parser) ∧ parser.Everywhere property
  | _, .label name parser => property _ (.label name parser) ∧ parser.Everywhere property
  | _, .parseAs reader parser => property _ (.parseAs reader parser) ∧ parser.Everywhere property
  | _, .sequence parts =>
      property _ (.sequence parts) ∧ ∀ part, (parts part).Everywhere property
  | _, .sequenceList parts =>
      property _ (.sequenceList parts) ∧ ∀ part, (parts part).Everywhere property
  | _, .choice alternatives =>
      property _ (.choice alternatives) ∧ ∀ index, (alternatives index).Everywhere property
  | _, .many parser => property _ (.many parser) ∧ parser.Everywhere property
  | _, .manyOne parser => property _ (.manyOne parser) ∧ parser.Everywhere property
  | _, .sepBy separator item =>
      property _ (.sepBy separator item) ∧ separator.Everywhere property ∧
        item.Everywhere property
  | _, .optional parser => property _ (.optional parser) ∧ parser.Everywhere property
  | _, .rule name => property _ (.rule name)
  | _, .fresh memory parser => property _ (.fresh memory parser) ∧ parser.Everywhere property

/-- Properties that together imply another one and hold everywhere let that one hold everywhere. -/
theorem Parser.everywhere_of_forall.{u} {Index : Sort u}
    {properties : Index → (A : Type) → Parser signature A → Prop}
    {property : (A : Type) → Parser signature A → Prop}
    (implies : ∀ A part, (∀ index, properties index A part) → property A part)
    {A : Type} {parser : Parser signature A}
    (everywhere : ∀ index, parser.Everywhere (properties index)) : parser.Everywhere property := by
  induction parser with
  | leaf _ | function _ | succeed _ | fail _ | rule _ => exact implies _ _ everywhere
  | map _ _ inner | mapError _ _ inner | label _ _ inner | parseAs _ _ inner | many _ inner
  | manyOne _ inner | optional _ inner | fresh _ _ inner =>
      exact ⟨implies _ _ fun index => (everywhere index).1, inner fun index => (everywhere index).2⟩
  | ap _ _ inner otherInner | sepBy _ _ inner otherInner =>
      exact ⟨implies _ _ fun index => (everywhere index).1,
        inner fun index => (everywhere index).2.1, otherInner fun index => (everywhere index).2.2⟩
  | chain _ _ inner nextInner =>
      exact ⟨implies _ _ fun index => (everywhere index).1,
        inner fun index => (everywhere index).2.1,
        fun value => nextInner value fun index => (everywhere index).2.2 value⟩
  | sequence _ inner | sequenceList _ inner | choice _ inner =>
      exact ⟨implies _ _ fun index => (everywhere index).1,
        fun part => inner part fun index => (everywhere index).2 part⟩

theorem Parser.Everywhere.imp {property weaker : (A : Type) → Parser signature A → Prop}
    (implies : ∀ A part, property A part → weaker A part) {A : Type} {parser : Parser signature A}
    (everywhere : parser.Everywhere property) : parser.Everywhere weaker :=
  Parser.everywhere_of_forall (fun A part holds => implies A part (holds ())) fun _ : Unit =>
    everywhere

theorem Parser.Everywhere.imp₂
    {property other weaker : (A : Type) → Parser signature A → Prop}
    (implies : ∀ A part, property A part → other A part → weaker A part) {A : Type}
    {parser : Parser signature A} (everywhere : parser.Everywhere property)
    (otherEverywhere : parser.Everywhere other) : parser.Everywhere weaker := by
  have both (isFirst : Bool) : parser.Everywhere (cond isFirst property other) := by
    cases isFirst with
    | false => exact otherEverywhere
    | true => exact everywhere
  refine Parser.everywhere_of_forall ?_ both
  intro A part holds
  exact implies A part (holds true) (holds false)

/-- Such a plain function may succeed without moving. -/
def FunctionMayStay {medium : Medium} {Memory A : Type}
    (run : Cursor medium → Memory → Reading medium A × Memory) : Prop :=
  ∃ cursor memory next value, (run cursor memory).1 = .success next value ∧
    next.index = cursor.index

/-- A nullable parser may succeed without moving. This is the least such relation. -/
inductive Parser.Nullable (grammar : Grammar signature) :
    {A : Type} → Parser signature A → Prop
  | leaf {A : Type} {wanted : Leaf signature.medium A} (mayStay : wanted.MayStay) :
      Nullable grammar (.leaf wanted)
  | function {A : Type}
      {run : Cursor signature.medium → signature.Memory →
        Reading signature.medium A × signature.Memory}
      (mayStay : FunctionMayStay run) : Nullable grammar (.function run)
  | succeed {A : Type} (value : A) : Nullable grammar (.succeed value)
  | map {A B : Type} (convert : A → B) {parser : Parser signature A}
      (nullable : Nullable grammar parser) : Nullable grammar (.map convert parser)
  | chain {A B : Type} {parser : Parser signature A} {next : A → Parser signature B} {value : A}
      (nullable : Nullable grammar parser) (nextNullable : Nullable grammar (next value)) :
      Nullable grammar (.chain parser next)
  | ap {A B : Type} {applied : Parser signature (A → B)} {argument : Parser signature A}
      (nullable : Nullable grammar applied) (argumentNullable : Nullable grammar argument) :
      Nullable grammar (.ap applied argument)
  | mapError {A : Type} (convert : Failure → Failure) {parser : Parser signature A}
      (nullable : Nullable grammar parser) : Nullable grammar (.mapError convert parser)
  | label {A : Type} (name : String) {parser : Parser signature A}
      (nullable : Nullable grammar parser) : Nullable grammar (.label name parser)
  | parseAs {A : Type} (reader : Reader A) {parser : Parser signature String}
      (nullable : Nullable grammar parser) : Nullable grammar (.parseAs reader parser)
  | sequence {types : List Type}
      {parts : (part : Fin types.length) → Parser signature (types.get part)}
      (nullable : ∀ part, Nullable grammar (parts part)) : Nullable grammar (.sequence parts)
  | sequenceList {A : Type} {count : Nat} {parts : Fin count → Parser signature A}
      (nullable : ∀ part, Nullable grammar (parts part)) : Nullable grammar (.sequenceList parts)
  | choice {A : Type} {count : Nat} {alternatives : Fin count → Parser signature A}
      {index : Fin count} (nullable : Nullable grammar (alternatives index)) :
      Nullable grammar (.choice alternatives)
  | many {A : Type} (parser : Parser signature A) : Nullable grammar (.many parser)
  | manyOne {A : Type} {parser : Parser signature A} (nullable : Nullable grammar parser) :
      Nullable grammar (.manyOne parser)
  | sepBy {A B : Type} (separator : Parser signature B) (item : Parser signature A) :
      Nullable grammar (.sepBy separator item)
  | optional {A : Type} (parser : Parser signature A) : Nullable grammar (.optional parser)
  | rule {name : signature.Rule} (nullable : Nullable grammar (grammar name)) :
      Nullable grammar (.rule name)
  | fresh {A : Type} (memory : signature.Memory) {parser : Parser signature A}
      (nullable : Nullable grammar parser) : Nullable grammar (.fresh memory parser)

/-- The condition under which a parser is nullable, in terms of its parts. -/
def Parser.NullableByParts (grammar : Grammar signature) {A : Type} : Parser signature A → Prop
  | .leaf wanted => wanted.MayStay
  | .function run => FunctionMayStay run
  | .succeed _ => True
  | .fail _ => False
  | .map _ parser => parser.Nullable grammar
  | .chain parser next => parser.Nullable grammar ∧ ∃ value, (next value).Nullable grammar
  | .ap applied argument => applied.Nullable grammar ∧ argument.Nullable grammar
  | .mapError _ parser => parser.Nullable grammar
  | .label _ parser => parser.Nullable grammar
  | .parseAs _ parser => parser.Nullable grammar
  | .sequence parts => ∀ part, (parts part).Nullable grammar
  | .sequenceList parts => ∀ part, (parts part).Nullable grammar
  | .choice alternatives => ∃ index, (alternatives index).Nullable grammar
  | .many _ => True
  | .manyOne parser => parser.Nullable grammar
  | .sepBy _ _ => True
  | .optional _ => True
  | .rule name => (grammar name).Nullable grammar
  | .fresh _ parser => parser.Nullable grammar

theorem Parser.nullable_iff {grammar : Grammar signature} {A : Type} {parser : Parser signature A} :
    parser.Nullable grammar ↔ parser.NullableByParts grammar := by
  constructor
  · intro nullable
    cases nullable with
    | leaf mayStay => exact mayStay
    | function mayStay => exact mayStay
    | succeed value => trivial
    | map convert nullable => exact nullable
    | chain nullable nextNullable => exact ⟨nullable, _, nextNullable⟩
    | ap nullable argumentNullable => exact ⟨nullable, argumentNullable⟩
    | mapError convert nullable => exact nullable
    | label name nullable => exact nullable
    | parseAs reader nullable => exact nullable
    | sequence nullable => exact nullable
    | sequenceList nullable => exact nullable
    | choice nullable => exact ⟨_, nullable⟩
    | many parser => trivial
    | manyOne nullable => exact nullable
    | sepBy separator item => trivial
    | optional parser => trivial
    | rule nullable => exact nullable
    | fresh memory nullable => exact nullable
  · intro byParts
    cases parser with
    | leaf wanted => exact .leaf byParts
    | function run => exact .function byParts
    | succeed value => exact .succeed value
    | fail reason => exact byParts.elim
    | map convert parser => exact .map convert byParts
    | chain parser next => exact .chain byParts.1 byParts.2.choose_spec
    | ap applied argument => exact .ap byParts.1 byParts.2
    | mapError convert parser => exact .mapError convert byParts
    | label name parser => exact .label name byParts
    | parseAs reader parser => exact .parseAs reader byParts
    | sequence parts => exact .sequence byParts
    | sequenceList parts => exact .sequenceList byParts
    | choice alternatives => exact .choice byParts.choose_spec
    | many parser => exact .many parser
    | manyOne parser => exact .manyOne byParts
    | sepBy separator item => exact .sepBy separator item
    | optional parser => exact .optional parser
    | rule name => exact .rule byParts
    | fresh memory parser => exact .fresh memory byParts

theorem Parser.nullable_pair {grammar : Grammar signature} {A B : Type}
    {first : Parser signature A} {second : Parser signature B} :
    (first.pair second).Nullable grammar ↔
      first.Nullable grammar ∧ second.Nullable grammar := by
  rw [pair, nullable_iff]
  show Nullable grammar (.sequence _) ↔ _
  rw [nullable_iff]
  constructor
  · exact fun parts => ⟨parts 0, parts 1⟩
  · rintro ⟨firstNullable, secondNullable⟩
    exact Fin.cases firstNullable (Fin.cases secondNullable nofun)

/-- The parsers on both sides and the content must all be nullable. -/
theorem Parser.nullable_between {grammar : Grammar signature} {A B C : Type}
    {left : Parser signature A} {right : Parser signature B} {content : Parser signature C} :
    (left.between right content).Nullable grammar ↔
      left.Nullable grammar ∧ content.Nullable grammar ∧ right.Nullable grammar := by
  rw [between, nullable_iff]
  show Nullable grammar (.sequence _) ↔ _
  rw [nullable_iff]
  constructor
  · exact fun parts => ⟨parts 0, parts 1, parts 2⟩
  · rintro ⟨leftNullable, contentNullable, rightNullable⟩
    exact Fin.cases leftNullable (Fin.cases contentNullable (Fin.cases rightNullable nofun))

theorem Parser.nullable_choiceOf {grammar : Grammar signature} {A : Type}
    {alternatives : List (Parser signature A)} :
    (choiceOf alternatives).Nullable grammar ↔
      ∃ alternative ∈ alternatives, alternative.Nullable grammar := by
  rw [choiceOf, nullable_iff]
  constructor
  · rintro ⟨index, nullable⟩
    exact ⟨_, List.get_mem alternatives index, nullable⟩
  · rintro ⟨alternative, member, nullable⟩
    obtain ⟨index, rfl⟩ := List.get_of_mem member
    exact ⟨index, nullable⟩

/-- A parser calls a rule on the left when it may call it before it has moved. A later part stands
on the left when all parts before it are nullable. -/
inductive Parser.CallsLeft (grammar : Grammar signature) (called : signature.Rule) :
    {A : Type} → Parser signature A → Prop
  | rule : CallsLeft grammar called (.rule called)
  | map {A B : Type} (convert : A → B) {parser : Parser signature A}
      (calls : CallsLeft grammar called parser) : CallsLeft grammar called (.map convert parser)
  | chainFirst {A B : Type} {parser : Parser signature A} (next : A → Parser signature B)
      (calls : CallsLeft grammar called parser) : CallsLeft grammar called (.chain parser next)
  | chainNext {A B : Type} {parser : Parser signature A} {next : A → Parser signature B}
      {value : A} (nullable : parser.Nullable grammar)
      (calls : CallsLeft grammar called (next value)) :
      CallsLeft grammar called (.chain parser next)
  | apFirst {A B : Type} {applied : Parser signature (A → B)} (argument : Parser signature A)
      (calls : CallsLeft grammar called applied) : CallsLeft grammar called (.ap applied argument)
  | apArgument {A B : Type} {applied : Parser signature (A → B)} {argument : Parser signature A}
      (nullable : applied.Nullable grammar) (calls : CallsLeft grammar called argument) :
      CallsLeft grammar called (.ap applied argument)
  | mapError {A : Type} (convert : Failure → Failure) {parser : Parser signature A}
      (calls : CallsLeft grammar called parser) :
      CallsLeft grammar called (.mapError convert parser)
  | label {A : Type} (name : String) {parser : Parser signature A}
      (calls : CallsLeft grammar called parser) : CallsLeft grammar called (.label name parser)
  | parseAs {A : Type} (reader : Reader A) {parser : Parser signature String}
      (calls : CallsLeft grammar called parser) : CallsLeft grammar called (.parseAs reader parser)
  | sequence {types : List Type}
      {parts : (part : Fin types.length) → Parser signature (types.get part)}
      {part : Fin types.length} (before : ∀ earlier < part, (parts earlier).Nullable grammar)
      (calls : CallsLeft grammar called (parts part)) : CallsLeft grammar called (.sequence parts)
  | sequenceList {A : Type} {count : Nat} {parts : Fin count → Parser signature A}
      {part : Fin count} (before : ∀ earlier < part, (parts earlier).Nullable grammar)
      (calls : CallsLeft grammar called (parts part)) :
      CallsLeft grammar called (.sequenceList parts)
  | choice {A : Type} {count : Nat} {alternatives : Fin count → Parser signature A}
      {index : Fin count} (calls : CallsLeft grammar called (alternatives index)) :
      CallsLeft grammar called (.choice alternatives)
  | many {A : Type} {parser : Parser signature A} (calls : CallsLeft grammar called parser) :
      CallsLeft grammar called (.many parser)
  | manyOne {A : Type} {parser : Parser signature A} (calls : CallsLeft grammar called parser) :
      CallsLeft grammar called (.manyOne parser)
  | sepByItem {A B : Type} (separator : Parser signature B) {item : Parser signature A}
      (calls : CallsLeft grammar called item) : CallsLeft grammar called (.sepBy separator item)
  | sepBySeparator {A B : Type} {separator : Parser signature B} {item : Parser signature A}
      (nullable : item.Nullable grammar) (calls : CallsLeft grammar called separator) :
      CallsLeft grammar called (.sepBy separator item)
  | optional {A : Type} {parser : Parser signature A} (calls : CallsLeft grammar called parser) :
      CallsLeft grammar called (.optional parser)
  | fresh {A : Type} (memory : signature.Memory) {parser : Parser signature A}
      (calls : CallsLeft grammar called parser) : CallsLeft grammar called (.fresh memory parser)

/-- The condition under which a parser calls a rule on the left, in terms of its parts. -/
def Parser.CallsLeftByParts (grammar : Grammar signature) (called : signature.Rule) {A : Type} :
    Parser signature A → Prop
  | .leaf _ => False
  | .function _ => False
  | .succeed _ => False
  | .fail _ => False
  | .map _ parser => parser.CallsLeft grammar called
  | .chain parser next =>
      parser.CallsLeft grammar called ∨
        parser.Nullable grammar ∧ ∃ value, (next value).CallsLeft grammar called
  | .ap applied argument =>
      applied.CallsLeft grammar called ∨
        applied.Nullable grammar ∧ argument.CallsLeft grammar called
  | .mapError _ parser => parser.CallsLeft grammar called
  | .label _ parser => parser.CallsLeft grammar called
  | .parseAs _ parser => parser.CallsLeft grammar called
  | .sequence parts =>
      ∃ part, (∀ earlier < part, (parts earlier).Nullable grammar) ∧
        (parts part).CallsLeft grammar called
  | .sequenceList parts =>
      ∃ part, (∀ earlier < part, (parts earlier).Nullable grammar) ∧
        (parts part).CallsLeft grammar called
  | .choice alternatives => ∃ index, (alternatives index).CallsLeft grammar called
  | .many parser => parser.CallsLeft grammar called
  | .manyOne parser => parser.CallsLeft grammar called
  | .sepBy separator item =>
      item.CallsLeft grammar called ∨
        item.Nullable grammar ∧ separator.CallsLeft grammar called
  | .optional parser => parser.CallsLeft grammar called
  | .rule name => name = called
  | .fresh _ parser => parser.CallsLeft grammar called

theorem Parser.callsLeft_iff {grammar : Grammar signature} {called : signature.Rule} {A : Type}
    {parser : Parser signature A} :
    parser.CallsLeft grammar called ↔ parser.CallsLeftByParts grammar called := by
  constructor
  · intro calls
    cases calls with
    | rule => rfl
    | map convert calls => exact calls
    | chainFirst next calls => exact .inl calls
    | chainNext nullable calls => exact .inr ⟨nullable, _, calls⟩
    | apFirst argument calls => exact .inl calls
    | apArgument nullable calls => exact .inr ⟨nullable, calls⟩
    | mapError convert calls => exact calls
    | label name calls => exact calls
    | parseAs reader calls => exact calls
    | sequence before calls => exact ⟨_, before, calls⟩
    | sequenceList before calls => exact ⟨_, before, calls⟩
    | choice calls => exact ⟨_, calls⟩
    | many calls => exact calls
    | manyOne calls => exact calls
    | sepByItem separator calls => exact .inl calls
    | sepBySeparator nullable calls => exact .inr ⟨nullable, calls⟩
    | optional calls => exact calls
    | fresh memory calls => exact calls
  · intro byParts
    cases parser with
    | leaf wanted => exact byParts.elim
    | function run => exact byParts.elim
    | succeed value => exact byParts.elim
    | fail reason => exact byParts.elim
    | map convert parser => exact .map convert byParts
    | chain parser next =>
        rcases byParts with calls | ⟨nullable, value, calls⟩
        · exact .chainFirst next calls
        · exact .chainNext nullable calls
    | ap applied argument =>
        rcases byParts with calls | ⟨nullable, calls⟩
        · exact .apFirst argument calls
        · exact .apArgument nullable calls
    | mapError convert parser => exact .mapError convert byParts
    | label name parser => exact .label name byParts
    | parseAs reader parser => exact .parseAs reader byParts
    | sequence parts =>
        obtain ⟨part, before, calls⟩ := byParts
        exact .sequence before calls
    | sequenceList parts =>
        obtain ⟨part, before, calls⟩ := byParts
        exact .sequenceList before calls
    | choice alternatives =>
        obtain ⟨index, calls⟩ := byParts
        exact .choice calls
    | many parser => exact .many byParts
    | manyOne parser => exact .manyOne byParts
    | sepBy separator item =>
        rcases byParts with calls | ⟨nullable, calls⟩
        · exact .sepByItem separator calls
        · exact .sepBySeparator nullable calls
    | optional parser => exact .optional byParts
    | rule name =>
        cases byParts
        exact .rule
    | fresh memory parser => exact .fresh memory byParts

theorem Parser.callsLeft_pair {grammar : Grammar signature} {called : signature.Rule}
    {A B : Type} {first : Parser signature A} {second : Parser signature B} :
    (first.pair second).CallsLeft grammar called ↔
      first.CallsLeft grammar called ∨
        first.Nullable grammar ∧ second.CallsLeft grammar called := by
  rw [pair, callsLeft_iff]
  show CallsLeft grammar called (.sequence _) ↔ _
  rw [callsLeft_iff]
  constructor
  · rintro ⟨part, before, calls⟩
    have position : ∀ part : Fin 2, part = 0 ∨ part = 1 := by decide
    obtain rfl | rfl := position part
    · exact .inl calls
    · exact .inr ⟨before 0 Nat.one_pos, calls⟩
  · rintro (calls | ⟨nullable, calls⟩)
    · exact ⟨0, fun earlier isEarlier => absurd isEarlier (Fin.not_lt_zero earlier), calls⟩
    · have position : ∀ earlier : Fin 2, earlier < 1 → earlier = 0 := by decide
      refine ⟨1, fun earlier isEarlier => ?_, calls⟩
      obtain rfl := position earlier isEarlier
      exact nullable

/-- The content stands on the left behind a nullable left side, and the right side behind both. -/
theorem Parser.callsLeft_between {grammar : Grammar signature} {called : signature.Rule}
    {A B C : Type} {left : Parser signature A} {right : Parser signature B}
    {content : Parser signature C} :
    (left.between right content).CallsLeft grammar called ↔
      left.CallsLeft grammar called ∨
        left.Nullable grammar ∧ content.CallsLeft grammar called ∨
        left.Nullable grammar ∧ content.Nullable grammar ∧ right.CallsLeft grammar called := by
  rw [between, callsLeft_iff]
  show CallsLeft grammar called (.sequence _) ↔ _
  rw [callsLeft_iff]
  constructor
  · rintro ⟨part, before, calls⟩
    have position : ∀ part : Fin 3, part = 0 ∨ part = 1 ∨ part = 2 := by decide
    obtain rfl | rfl | rfl := position part
    · exact .inl calls
    · exact .inr (.inl ⟨before 0 Nat.one_pos, calls⟩)
    · exact .inr (.inr ⟨before 0 Nat.two_pos, before 1 Nat.one_lt_two, calls⟩)
  · rintro (calls | ⟨nullable, calls⟩ | ⟨nullable, contentNullable, calls⟩)
    · exact ⟨0, fun earlier isEarlier => absurd isEarlier (Fin.not_lt_zero earlier), calls⟩
    · have position : ∀ earlier : Fin 3, earlier < 1 → earlier = 0 := by decide
      refine ⟨1, fun earlier isEarlier => ?_, calls⟩
      obtain rfl := position earlier isEarlier
      exact nullable
    · have position : ∀ earlier : Fin 3, earlier < 2 → earlier = 0 ∨ earlier = 1 := by decide
      refine ⟨2, fun earlier isEarlier => ?_, calls⟩
      obtain rfl | rfl := position earlier isEarlier
      · exact nullable
      · exact contentNullable

theorem Parser.callsLeft_choiceOf {grammar : Grammar signature} {called : signature.Rule}
    {A : Type} {alternatives : List (Parser signature A)} :
    (choiceOf alternatives).CallsLeft grammar called ↔
      ∃ alternative ∈ alternatives, alternative.CallsLeft grammar called := by
  rw [choiceOf, callsLeft_iff]
  constructor
  · rintro ⟨index, calls⟩
    exact ⟨_, List.get_mem alternatives index, calls⟩
  · rintro ⟨alternative, member, calls⟩
    obtain ⟨index, rfl⟩ := List.get_of_mem member
    exact ⟨index, calls⟩

/-- No round of this repetition may stay where it began. -/
def Parser.RoundsMove (grammar : Grammar signature) {A : Type} : Parser signature A → Prop
  | .many parser => ¬ parser.Nullable grammar
  | .manyOne parser => ¬ parser.Nullable grammar
  | .sepBy separator item => ¬ (separator.Nullable grammar ∧ item.Nullable grammar)
  | _ => True

/-- Every repetition in the parser moves in each round. -/
def Parser.Productive (grammar : Grammar signature) {A : Type} (parser : Parser signature A) :
    Prop :=
  parser.Everywhere fun _ part => part.RoundsMove grammar

theorem Parser.productive_pair {grammar : Grammar signature} {A B : Type}
    {first : Parser signature A} {second : Parser signature B} :
    (first.pair second).Productive grammar ↔
      first.Productive grammar ∧ second.Productive grammar := by
  simp [pair, Productive, Everywhere, RoundsMove, Fin.forall_fin_succ]

theorem Parser.productive_between {grammar : Grammar signature} {A B C : Type}
    {left : Parser signature A} {right : Parser signature B} {content : Parser signature C} :
    (left.between right content).Productive grammar ↔
      left.Productive grammar ∧ content.Productive grammar ∧ right.Productive grammar := by
  simp [between, Productive, Everywhere, RoundsMove, Fin.forall_fin_succ]

theorem Parser.productive_choiceOf {grammar : Grammar signature} {A : Type}
    {alternatives : List (Parser signature A)} :
    (choiceOf alternatives).Productive grammar ↔
      ∀ alternative ∈ alternatives, alternative.Productive grammar := by
  constructor
  · intro productive alternative member
    obtain ⟨index, rfl⟩ := List.get_of_mem member
    exact productive.2 index
  · intro productive
    exact ⟨trivial, fun index => productive _ (List.get_mem alternatives index)⟩

/-- Calling the first rule may lead to a call of the second one before anything is read. -/
def Grammar.CallsLeft (grammar : Grammar signature) (rule called : signature.Rule) : Prop :=
  (grammar rule).CallsLeft grammar called

/-- In a well-formed grammar every repetition moves in each round, and no rule calls itself on the
left, neither directly nor through other rules. -/
structure Grammar.WellFormed (grammar : Grammar signature) : Prop where
  productive : ∀ rule, (grammar rule).Productive grammar
  notLeftRecursive : ∀ rule, ¬ Relation.TransGen grammar.CallsLeft rule rule

end ParserCombinators
