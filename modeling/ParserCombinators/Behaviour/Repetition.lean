/-
This file repeats parsers. A repetition goes on as long as its parser succeeds, so it never
returns when the parser succeeds again and again without moving. Its rounds are limited by fuel.
-/

import ParserCombinators.Behaviour.Sequence

namespace ParserCombinators.Behaviour

variable {medium : Medium} {Memory A B : Type}

/-- The values so far are kept with the latest one first. The failure that ends the repetition is
dropped. -/
def repeatFrom (parser : Behaviour medium Memory A) :
    Nat → List A → Behaviour medium Memory (List A)
  | 0, _ => fun _ _ => .unfinished
  | fuel + 1, values => fun cursor session =>
      (parser cursor session).resolve
        (fun next value session => repeatFrom parser fuel (value :: values) next session)
        fun _ session => .success cursor values.reverse session

/-- The number of values is recorded at the end of the repetition. -/
def recordCount (operation : Nat → Operation) (parser : Behaviour medium Memory (List A)) :
    Behaviour medium Memory (List A) :=
  chain parser fun values => succeedRecorded (operation values.length) values

/-- Any number of values. -/
def many (fuel : Nat) (parser : Behaviour medium Memory A) : Behaviour medium Memory (List A) :=
  announce .many (recordCount .manyEnd (repeatFrom parser fuel []))

def manyOneFailure (index : Nat) (cause : Failure) : Failure :=
  (Failure.newAt .manyOne "expected at least one match" index).causedBy cause

/-- At least one value. The failure of the first attempt is the cause of a failure. -/
def manyOne (fuel : Nat) (parser : Behaviour medium Memory A) :
    Behaviour medium Memory (List A) :=
  announce .manyOne fun cursor session =>
    (parser cursor session).resolve
      (fun next first session =>
        recordCount .manyOneEnd (repeatFrom parser fuel [first]) next session)
      fun cause session =>
        failRecorded .manyOne (manyOneFailure cursor.index cause) cursor session

/-- More items with a separator in front of each. The loop ends behind the latest item when the next
separator fails, and also when the item behind that separator does. The values of the separators are
dropped. -/
def itemsFrom (separator : Behaviour medium Memory B) (item : Behaviour medium Memory A) :
    Nat → List A → Behaviour medium Memory (List A)
  | 0, _ => fun _ _ => .unfinished
  | fuel + 1, values => fun cursor session =>
      (separator cursor session).resolve
        (fun between _ session =>
          (item between session).resolve
            (fun next value session =>
              itemsFrom separator item fuel (value :: values) next session)
            fun _ session => .success cursor values.reverse session)
        fun _ session => .success cursor values.reverse session

/-- Items with separators between them. Without a first item there are none, and a separator that
no item follows is not consumed. -/
def sepBy (fuel : Nat) (separator : Behaviour medium Memory B)
    (item : Behaviour medium Memory A) : Behaviour medium Memory (List A) :=
  announce .sepBy fun cursor session =>
    (item cursor session).resolve
      (fun next first session =>
        recordCount .sepByEnd (itemsFrom separator item fuel [first]) next session)
      fun _ session => .success cursor [] session

/-- One separator and one item. The value of the separator is dropped. -/
def separated (separator : Behaviour medium Memory B) (item : Behaviour medium Memory A) :
    Behaviour medium Memory A :=
  chain separator fun _ => item

/-- Both exits of the loop are the one exit of a repetition whose rounds are separated items. -/
theorem itemsFrom_eq_repeatFrom (separator : Behaviour medium Memory B)
    (item : Behaviour medium Memory A) (fuel : Nat) (values : List A) :
    itemsFrom separator item fuel values = repeatFrom (separated separator item) fuel values := by
  induction fuel generalizing values with
  | zero => rfl
  | succ fuel inductionHypothesis =>
      funext cursor session
      show (separator cursor session).resolve _ _ =
        ((separator cursor session).andThen _).resolve _ _
      cases separator cursor session with
      | unfinished => rfl
      | fault problem => rfl
      | failure reason later => rfl
      | success between dropped later =>
          show (item between later).resolve _ _ = (item between later).resolve _ _
          rw [funext inductionHypothesis]

/-- Behind a first item, separated items are repeated. -/
theorem sepBy_eq (fuel : Nat) (separator : Behaviour medium Memory B)
    (item : Behaviour medium Memory A) :
    sepBy fuel separator item = announce .sepBy fun cursor session =>
      (item cursor session).resolve
        (fun next first session =>
          recordCount .sepByEnd (repeatFrom (separated separator item) fuel [first]) next session)
        fun _ session => .success cursor [] session := by
  simp only [sepBy, itemsFrom_eq_repeatFrom]

end ParserCombinators.Behaviour
