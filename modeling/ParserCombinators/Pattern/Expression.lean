/-
This file defines regular expressions and their normal form. The functions that build an expression
from parts keep the normal form.
-/

import ParserCombinators.Pattern.CharacterClass
import ParserCombinators.Pattern.Place

namespace ParserCombinators.Pattern

open Text

/-- Alternatives and repetitions have an order of preference. A greedy repetition prefers to go
on. In normal form a text is not empty, the first part of `append` is no `append`, the first part
of `either` is no `either`, and no two texts follow each other. -/
inductive Expression
  | empty
  | text (characters : List Char)
  | one (characters : CharacterClass)
  | assertion (condition : Assertion)
  | group (number : Nat) (inner : Expression)
  | append (first second : Expression)
  | either (preferred other : Expression)
  | repetition (low : Nat) (high : Option Nat) (greedy : Bool) (repeated : Expression)
  deriving Repr, DecidableEq

namespace Expression

/-- Every match of such an expression is longer than zero. -/
def consumes : Expression → Bool
  | .empty => false
  | .text _ => true
  | .one _ => true
  | .assertion _ => false
  | .group _ inner => inner.consumes
  | .append first second => first.consumes || second.consumes
  | .either preferred other => preferred.consumes && other.consumes
  | .repetition low _ _ repeated => decide (0 < low) && repeated.consumes

/-- Every match of such an expression is empty. -/
def consumesNothing : Expression → Bool
  | .empty => true
  | .text _ => false
  | .one _ => false
  | .assertion _ => true
  | .group _ inner => inner.consumesNothing
  | .append first second => first.consumesNothing && second.consumesNothing
  | .either preferred other => preferred.consumesNothing && other.consumesNothing
  | .repetition _ _ _ repeated => repeated.consumesNothing

/-- A class with one member is written as a text. -/
def ofClass (characters : CharacterClass) : Expression :=
  match characters.onlyMember? with
  | some member => .text [member]
  | none => .one characters

/-- The parts that follow each other in an expression. -/
def parts : Expression → List Expression
  | .empty => []
  | .append first second => first :: second.parts
  | expression => [expression]

/-- Texts that follow each other become one text. -/
def joinTexts : List Expression → List Expression
  | [] => []
  | .text first :: rest =>
      match joinTexts rest with
      | .text second :: others => .text (first ++ second) :: others
      | others => .text first :: others
  | first :: rest => first :: joinTexts rest

def chain : List Expression → Expression
  | [] => .empty
  | [only] => only
  | first :: rest => .append first (chain rest)

/-- The expressions one after the other. -/
def sequenceOf (expressions : List Expression) : Expression :=
  chain (joinTexts (expressions.flatMap parts))

/-- The alternatives of an expression, the preferred one first. -/
def alternatives : Expression → List Expression
  | .either preferred other => preferred :: other.alternatives
  | expression => [expression]

def fork : List Expression → Expression
  | [] => .one .nothing
  | [only] => only
  | preferred :: rest => .either preferred (fork rest)

/-- The one character of a text. -/
def character? : Expression → Option Char
  | .text [character] => some character
  | _ => none

def class? : Expression → Option CharacterClass
  | .one characters => some characters
  | _ => none

/-- Alternatives that are all characters, or all classes, are one class. -/
def mergeClasses (expressions : List Expression) : Option CharacterClass :=
  let unite : List CharacterClass → CharacterClass := fun classes =>
    classes.foldl CharacterClass.union .nothing
  match expressions.mapM character? with
  | some characters => some (unite (characters.map CharacterClass.single))
  | none => (expressions.mapM class?).map unite

/-- An expression whose alternatives are tried in this order. -/
def choiceAsGiven (expressions : List Expression) : Expression :=
  let all := expressions.flatMap alternatives
  match all with
  | [only] => only
  | all =>
      match mergeClasses all with
      | some characters => ofClass characters
      | none => fork all

/-- How many parts two sequences have in common before they differ. -/
def commonLength : List Expression → List Expression → Nat
  | first :: firstRest, second :: secondRest =>
      if first = second then commonLength firstRest secondRest + 1 else 0
  | _, _ => 0

/-- Only alternatives of several parts share a beginning. -/
def sharedLength : List (List Expression) → Nat
  | [] => 0
  | first :: rest =>
      if (first :: rest).all fun parts => decide (2 ≤ parts.length) then
        rest.foldl (fun length parts => min length (commonLength first parts)) first.length
      else 0

/-- An expression whose alternatives are tried in this order. What all alternatives begin with
stands before them once. -/
def choiceOf (expressions : List Expression) : Expression :=
  let all := expressions.flatMap alternatives
  let sequences := all.map parts
  match sequences, sharedLength sequences with
  | first :: _ :: _, length + 1 =>
      sequenceOf (first.take (length + 1) ++
        [choiceAsGiven (sequences.map fun parts => chain (parts.drop (length + 1)))])
  | _, _ => choiceAsGiven all

/-- Matches that are always empty are repeated at most once. -/
def times (low : Nat) (high : Option Nat) (greedy : Bool) (repeated : Expression) : Expression :=
  let low' := if repeated.consumesNothing then min low 1 else low
  let high' := if repeated.consumesNothing then some (min (high.getD 1) 1) else high
  if high' = some 0 then .empty
  else if low' = 1 ∧ high' = some 1 then repeated
  else .repetition low' high' greedy repeated

end Expression

end ParserCombinators.Pattern
