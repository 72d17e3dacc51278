/-
This file reads a list with separators in another way: an optional item, behind which separators and
items are repeated in pairs. Both ways give the same values at the same cursor and make the same
calls, whatever the parts do and remember.
-/

import ParserCombinators.Proofs.Calls
import ParserCombinators.Proofs.Ending
import ParserCombinators.Proofs.Rules

namespace ParserCombinators

section

variable {A B : Type}

/-- The items without their separators. -/
def listed : Option (A × List (B × A)) → List A
  | none => []
  | some (first, others) => first :: others.map Prod.snd

/-- A list with separators that only uses the other combinators. -/
def Parser.optionalItems {signature : Signature} (separator : Parser signature B)
    (item : Parser signature A) : Parser signature (List A) :=
  map listed (optional (pair item (many (pair separator item))))

namespace Behaviour

variable {medium : Medium} {Memory : Type}

def pair (first : Behaviour medium Memory A) (second : Behaviour medium Memory B) :
    Behaviour medium Memory (A × B) :=
  announce (.sequence 2) (chain first fun value => map (fun other => (value, other)) second)

def optionalItems (fuel : Nat) (separator : Behaviour medium Memory B)
    (item : Behaviour medium Memory A) : Behaviour medium Memory (List A) :=
  map listed (optional (pair item (many fuel (pair separator item))))

theorem Forgets.pair {first : Behaviour medium (Watch medium Memory) A}
    {plainFirst : Behaviour medium Memory A} {second : Behaviour medium (Watch medium Memory) B}
    {plainSecond : Behaviour medium Memory B} (forgets : first.Forgets plainFirst)
    (secondForgets : second.Forgets plainSecond) :
    (Behaviour.pair first second).Forgets (Behaviour.pair plainFirst plainSecond) :=
  (forgets.chain fun _ => secondForgets.map _).announce _

theorem Forgets.optionalItems {separator : Behaviour medium (Watch medium Memory) B}
    {plainSeparator : Behaviour medium Memory B} {item : Behaviour medium (Watch medium Memory) A}
    {plainItem : Behaviour medium Memory A} (forgets : separator.Forgets plainSeparator)
    (itemForgets : item.Forgets plainItem) (fuel : Nat) :
    (Behaviour.optionalItems fuel separator item).Forgets
      (Behaviour.optionalItems fuel plainSeparator plainItem) :=
  ((itemForgets.pair ((forgets.pair itemForgets).many fuel)).optional).map listed

theorem repeatFrom_ne_failure (parser : Behaviour medium Memory A) (fuel : Nat) (values : List A)
    (cursor : Cursor medium) (session : Session Memory) (reason : Failure)
    (final : Session Memory) :
    repeatFrom parser fuel values cursor session ≠ .failure reason final := by
  induction fuel generalizing values cursor session with
  | zero => nofun
  | succ fuel inductionHypothesis =>
      show (parser cursor session).resolve _ _ ≠ _
      cases parser cursor session with
      | unfinished => nofun
      | fault problem => nofun
      | failure reason later => nofun
      | success next value later => exact inductionHypothesis (value :: values) next later

theorem recordCount_repeatFrom_ne_failure (operation : Nat → Operation)
    (parser : Behaviour medium Memory A) (fuel : Nat) (values : List A) (cursor : Cursor medium)
    (session : Session Memory) (reason : Failure) (final : Session Memory) :
    recordCount operation (repeatFrom parser fuel values) cursor session ≠
      .failure reason final := by
  intro failed
  rcases Outcome.andThen_eq_failure failed with ⟨_, _, _, _, impossible⟩ | failed
  · cases impossible
  · exact repeatFrom_ne_failure parser fuel values cursor session reason final failed

/-- A repetition of converted values converts the values of the repetition. -/
theorem repeatFrom_map (convert : A → B) (parser : Behaviour medium Memory A) (fuel : Nat)
    (values : List A) :
    repeatFrom (map convert parser) fuel (values.map convert) =
      map (List.map convert) (repeatFrom parser fuel values) := by
  induction fuel generalizing values with
  | zero => rfl
  | succ fuel inductionHypothesis =>
      funext cursor session
      show ((parser cursor session).andThen _).resolve _ _ =
        ((parser cursor session).resolve _ _).andThen _
      cases parser cursor session with
      | unfinished => rfl
      | fault problem => rfl
      | failure reason later =>
          exact congrArg (Outcome.success cursor · later) List.map_reverse.symm
      | success next value later =>
          exact congrFun₂ (inductionHypothesis (value :: values)) next later

/-- A value from before the repetition stands in front of the others. -/
theorem repeatFrom_append (parser : Behaviour medium Memory A) (fuel : Nat) (values : List A)
    (first : A) :
    repeatFrom parser fuel (values ++ [first]) =
      map (first :: ·) (repeatFrom parser fuel values) := by
  induction fuel generalizing values with
  | zero => rfl
  | succ fuel inductionHypothesis =>
      funext cursor session
      show (parser cursor session).resolve _ _ = ((parser cursor session).resolve _ _).andThen _
      cases parser cursor session with
      | unfinished => rfl
      | fault problem => rfl
      | failure reason later =>
          exact congrArg (Outcome.success cursor · later) List.reverse_concat
      | success next value later =>
          exact congrFun₂ (inductionHypothesis (value :: values)) next later

/-- A pair without its first value is its second part behind its first one. -/
theorem map_snd_pair (first : Behaviour medium Memory B) (second : Behaviour medium Memory A)
    (cursor : Cursor medium) (session : Session Memory) :
    map Prod.snd (pair first second) cursor session =
      separated first second cursor (session.record cursor.index (.sequence 2) .began) := by
  show ((first cursor _).andThen _).andThen _ = (first cursor _).andThen _
  cases first cursor (session.record cursor.index (.sequence 2) .began) with
  | unfinished => rfl
  | fault problem => rfl
  | failure reason later => rfl
  | success next value later =>
      show ((second next later).andThen _).andThen _ = second next later
      cases second next later <;> rfl

/-- The optional items go on behind the first item or end at once. -/
theorem optionalItems_eq (fuel : Nat) (separator : Behaviour medium Memory B)
    (item : Behaviour medium Memory A) (cursor : Cursor medium) (session : Session Memory) :
    optionalItems fuel separator item cursor session =
      (item cursor (session.record cursor.index (.sequence 2) .began)).resolve
        (fun next first later =>
          map (fun others => first :: others.map Prod.snd) (many fuel (pair separator item)) next
            later)
        fun _ later => succeedRecorded .optional [] cursor later := by
  show ((((item cursor _).andThen _).andThen _).orElse _).andThen _ = _
  cases item cursor (session.record cursor.index (.sequence 2) .began) with
  | unfinished => rfl
  | fault problem => rfl
  | failure reason later => rfl
  | success next first later =>
      let begun := later.record next.index .many .began
      have never := repeatFrom_ne_failure (pair separator item) fuel [] next begun
      show (((((repeatFrom (pair separator item) fuel [] next begun).andThen _).andThen _).andThen
        _).orElse _).andThen _ =
          ((repeatFrom (pair separator item) fuel [] next begun).andThen _).andThen _
      generalize repeatFrom (pair separator item) fuel [] next begun = outcome at never
      cases outcome with
      | unfinished => rfl
      | fault problem => rfl
      | failure reason final => exact absurd rfl (never reason final)
      | success last others final => rfl

variable {separator : Behaviour medium Memory B} {item : Behaviour medium Memory A}

/-- The rounds behind a first item are the same in both lists. -/
theorem rounds_alike (separatorAlike : separator.Alike (.same medium) separator)
    (itemAlike : item.Alike (.same medium) item) (fuel : Nat) (first : A) :
    (recordCount .sepByEnd (repeatFrom (separated separator item) fuel [first])).Alike
      (.same medium)
      (map (fun others => first :: others.map Prod.snd) (many fuel (pair separator item))) := by
  have round : (separated separator item).Alike (.same medium)
      (map Prod.snd (pair separator item)) := by
    intro cursor cursor' cursors session session' memories
    rw [map_snd_pair]
    exact (separatorAlike.chain fun _ => itemAlike) cursor cursor' cursors session _ memories
  have listing : repeatFrom (map Prod.snd (pair separator item)) fuel [first] =
      map (first :: ·) (map (List.map Prod.snd) (repeatFrom (pair separator item) fuel [])) := by
    rw [← repeatFrom_map, List.map_nil]
    exact repeatFrom_append _ fuel [] first
  intro cursor cursor' cursors session session' memories
  -- Only the events of the two ends differ from here on.
  let begun := session'.record cursor'.index .many .began
  have rounds := round.repeatFrom fuel [first] cursor cursor' cursors session begun memories
  rw [listing] at rounds
  show ((repeatFrom (separated separator item) fuel [first] cursor session).andThen _).Alike _
    (((repeatFrom (pair separator item) fuel [] cursor' begun).andThen _).andThen _)
  replace rounds : (repeatFrom (separated separator item) fuel [first] cursor session).Alike
    (.same medium)
      (((repeatFrom (pair separator item) fuel [] cursor' begun).andThen _).andThen _) :=
    rounds
  generalize repeatFrom (separated separator item) fuel [first] cursor session = outcome at rounds
  generalize repeatFrom (pair separator item) fuel [] cursor' begun = outcome' at rounds
  cases outcome' with
  | unfinished =>
      cases rounds
      exact .unfinished
  | fault problem =>
      cases rounds
      exact .fault problem
  | failure reason final =>
      cases rounds with
      | failure failures memories => exact .failure failures memories
  | success last others final =>
      cases rounds with
      | success cursors _ memories => exact .success cursors _ memories

theorem sepBy_alike_optionalItems (separatorAlike : separator.Alike (.same medium) separator)
    (itemAlike : item.Alike (.same medium) item) (fuel : Nat) :
    (sepBy fuel separator item).Alike (.same medium) (optionalItems fuel separator item) := by
  intro cursor cursor' cursors session session' memories
  rw [sepBy_eq, optionalItems_eq]
  apply (itemAlike cursor cursor' cursors (session.record cursor.index .sepBy .began)
    (session'.record cursor'.index (.sequence 2) .began) memories).resolve
  · intro next next' first later later' nexts laterMemories
    exact rounds_alike separatorAlike itemAlike fuel first next next' nexts later later'
      laterMemories
  · intro _ _ later later' _ laterMemories
    exact .success cursors [] laterMemories

end Behaviour

variable {signature : Signature}

theorem Parser.behaviour_pair_eq
    (call : (rule : signature.Rule) →
      Behaviour signature.medium signature.Memory (signature.result rule))
    (fuel : Nat) (first : Parser signature A) (second : Parser signature B) :
    (pair first second).behaviour call fuel =
      .pair (first.behaviour call fuel) (second.behaviour call fuel) := by
  funext cursor session
  exact behaviour_pair first second session

namespace Grammar

variable (grammar : Grammar signature) (separator : Parser signature B) (item : Parser signature A)

theorem outcome_optionalItems (fuel : Nat) :
    grammar.outcome fuel (.optionalItems separator item) =
      .optionalItems fuel (grammar.outcome fuel separator) (grammar.outcome fuel item) := by
  have round := Parser.behaviour_pair_eq (grammar.call fuel) fuel separator item
  show Behaviour.map listed (.optional ((Parser.pair item _).behaviour (grammar.call fuel) fuel)) =
    _
  rw [Parser.behaviour_pair_eq]
  show Behaviour.map listed (.optional (.pair _
    (.many fuel ((Parser.pair separator item).behaviour (grammar.call fuel) fuel)))) = _
  rw [round]
  rfl

/-- The list is read while all calls of its parts are noted. -/
def watchedSepBy (allowed : List (Call signature.medium) → Bool) (fuel : Nat) :
    Behaviour signature.medium (Watch signature.medium signature.Memory) (List A) :=
  .sepBy fuel (.watched allowed .separator (grammar.outcome fuel separator))
    (.watched allowed .item (grammar.outcome fuel item))

/-- The optional items are read while all calls of their parts are noted. -/
def watchedOptionalItems (allowed : List (Call signature.medium) → Bool) (fuel : Nat) :
    Behaviour signature.medium (Watch signature.medium signature.Memory) (List A) :=
  .optionalItems fuel (.watched allowed .separator (grammar.outcome fuel separator))
    (.watched allowed .item (grammar.outcome fuel item))

/-- Both ways to read a list with separators have the same end: the same cursor, the same values and
the same memory of the parts. They also make the same calls of the parts, whichever calls are
allowed, and noting the calls changes nothing. -/
theorem sepBy_agrees_with_optionalItems (cursor : Cursor signature.medium)
    (session : Session signature.Memory) :
    (∀ fuel, (grammar.outcome fuel (.sepBy separator item) cursor session).Alike (.same _)
      (grammar.outcome fuel (.optionalItems separator item) cursor session)) ∧
    (∀ next values, grammar.Succeeds (.sepBy separator item) cursor session next values ↔
      grammar.Succeeds (.optionalItems separator item) cursor session next values) ∧
    (grammar.Diverges (.sepBy separator item) cursor session ↔
      grammar.Diverges (.optionalItems separator item) cursor session) ∧
    (∀ allowed fuel calls,
      (grammar.watchedSepBy separator item allowed fuel cursor (session.noting calls)).Alike
        (.same _)
        (grammar.watchedOptionalItems separator item allowed fuel cursor
          (session.noting calls))) ∧
    ∀ fuel calls,
      (grammar.watchedSepBy separator item (fun _ => true) fuel cursor
        (session.noting calls)).forget =
          grammar.outcome fuel (.sepBy separator item) cursor session ∧
      (grammar.watchedOptionalItems separator item (fun _ => true) fuel cursor
        (session.noting calls)).forget =
          grammar.outcome fuel (.optionalItems separator item) cursor session := by
  have partsAlike (fuel : Nat) := And.intro (grammar.outcome_alike_same fuel separator)
    (grammar.outcome_alike_same fuel item)
  have alike (fuel : Nat) :
      (grammar.outcome fuel (.sepBy separator item) cursor session).Alike (.same _)
        (grammar.outcome fuel (.optionalItems separator item) cursor session) := by
    rw [outcome_optionalItems]
    exact Behaviour.sepBy_alike_optionalItems (partsAlike fuel).1 (partsAlike fuel).2 fuel cursor
      cursor rfl session session rfl
  refine ⟨alike, fun _ _ => succeeds_iff_of_alike (fun _ _ => id) alike,
    diverges_iff_of_alike alike, ?_, ?_⟩
  · intro allowed fuel calls
    exact Behaviour.sepBy_alike_optionalItems ((partsAlike fuel).1.watched allowed .separator)
      ((partsAlike fuel).2.watched allowed .item) fuel cursor cursor rfl _ _ rfl
  · intro fuel calls
    have separatorForgets := Behaviour.watched_forgets .separator (grammar.outcome fuel separator)
    have itemForgets := Behaviour.watched_forgets .item (grammar.outcome fuel item)
    rw [outcome_optionalItems]
    exact ⟨separatorForgets.sepBy itemForgets fuel cursor _,
      separatorForgets.optionalItems itemForgets fuel cursor _⟩

end Grammar

end

end ParserCombinators
