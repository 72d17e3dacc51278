/-
This file measures expressions and limits their size.
-/

import ParserCombinators.Pattern.Expression
import ParserCombinators.Text.ByteRange

namespace ParserCombinators.Pattern

open Text

/-- An expression stands for two automata over the bytes of texts. One reads forward, and the other
one reads backward. -/
inductive Direction
  | forward
  | backward
  deriving Repr, DecidableEq

/-- The size of a state of an automaton. -/
def stateSize : Nat := 32

/-- The size of a choice in a state that has several ways on. -/
def wayStateSize (ways : Nat) : Nat := stateSize + 4 * ways

/-- The size of a state that reads a byte of one of several ranges. -/
def readingStateSize (ranges : Nat) : Nat := stateSize + 8 * ranges

/-- Runs that begin with the same range go on from one state. -/
def branchesOf (runs : List ByteRun) : List (List ByteRun) :=
  (runs.splitBy fun first second => first.head? == second.head?).map fun branch =>
    (branch.map List.tail).filter fun run => !run.isEmpty

/-- States that go on alike are one state. The depth bounds the length of the runs. -/
def statesOf : Nat → List (List ByteRun) → List (List ByteRun)
  | 0, _ => []
  | depth + 1, states =>
      let states := states.eraseDups.filter fun state => !state.isEmpty
      (states ++ statesOf depth (states.flatMap branchesOf)).eraseDups

/-- Forward, runs share their ends. Backward, they share their beginnings only. A class of ASCII is
one state in both directions. -/
def CharacterClass.size (direction : Direction) (characters : CharacterClass) : Nat :=
  if characters.ranges.all fun range => decide (range.2 < 0x80) then
    readingStateSize characters.ranges.length + stateSize
  else
    let runs := characters.ranges.byteRuns
    match direction with
    | .forward =>
        (statesOf 4 [runs]).foldr
          (fun state size => readingStateSize (branchesOf state).length + size) stateSize
    | .backward =>
        stateSize * stepCount [] runs + wayStateSize runs.length + stateSize

namespace Expression

def isEither : Expression → Bool
  | .either _ _ => true
  | _ => false

/-- A copy of the repeated expression stands for each round. The last round of a repetition without
an upper count is the one that comes again. Only the forward automaton marks the ends of groups. -/
def size (direction : Direction) : Expression → Nat
  | .empty => stateSize
  | .text characters =>
      stateSize * characters.foldr (fun character size => character.utf8Size + size) 0
  | .one characters => characters.size direction
  | .assertion _ => stateSize
  | .group _ inner =>
      inner.size direction + (if direction = .forward then 2 * stateSize else 0)
  | .append first second => first.size direction + second.size direction
  | .either preferred other =>
      let rest := other.size direction
      preferred.size direction + rest +
        (if other.isEither then 4 else wayStateSize 2 + stateSize)
  | .repetition low high _ repeated =>
      let round := repeated.size direction
      match low, high with
      | 0, none =>
          if repeated.consumes then round + wayStateSize 2
          else round + 2 * wayStateSize 2 + stateSize
      | low + 1, none => (low + 1) * round + wayStateSize 2
      | 0, some high =>
          (if high = 1 then 0 else stateSize) + high * (round + wayStateSize 2) + stateSize
      | low + 1, some high =>
          if high = low + 1 then high * round
          else (low + 1) * round + (high - (low + 1)) * (round + wayStateSize 2) + stateSize

/-- The automaton also skips the text before a match and accepts, and forward it marks the ends of
the match. -/
def totalSize (direction : Direction) (expression : Expression) : Nat :=
  expression.size direction + wayStateSize 2 + stateSize + stateSize +
    (if direction = .forward then 2 * stateSize else 0)

/-- Ten mebibytes. -/
def sizeLimit : Nat := 10 * Nat.pow 2 20

/-- Neither automaton may exceed the limit. -/
def fits (expression : Expression) : Bool :=
  decide (expression.totalSize .forward ≤ sizeLimit) &&
    decide (expression.totalSize .backward ≤ sizeLimit)

end Expression

end ParserCombinators.Pattern
