/-
This file walks over the tree of a failure: its leaves, the leaf that got furthest, the chain of
first causes, and the drawing of the whole tree.
-/

import ParserCombinators.Failure.Basic
import ParserCombinators.Text.Replacement

namespace ParserCombinators.Failure

open Text

mutual

/-- The failures without a cause, depth first. -/
def leaves : Failure → List Failure
  | .leaf report => [.leaf report]
  | .single _ cause => leaves cause
  | .many _ causes => leavesOfAll causes

def leavesOfAll : List Failure → List Failure
  | [] => []
  | failure :: failures => leaves failure ++ leavesOfAll failures

end

/-- An absent position comes before every known one. -/
def before : Option Nat → Option Nat → Bool
  | none, none => false
  | none, some _ => true
  | some _, none => false
  | some first, some second => decide (first < second)

/-- A later failure is preferred only when its position is greater. -/
def further (best candidate : Failure) : Failure :=
  if before best.position candidate.position then candidate else best

/-- The leaf that got furthest into the input. The earliest one wins a tie, and a failure without
leaves stands for itself. -/
def furthest (failure : Failure) : Failure :=
  match failure.leaves with
  | [] => failure
  | first :: others => others.foldl further first

/-- The cause that a chain of sources follows. -/
def source (failure : Failure) : Option Failure := failure.causes.head?

/-- The first cause, its first cause, and so on. -/
def sources : Failure → List Failure
  | .leaf _ => []
  | .single _ cause => cause :: sources cause
  | .many _ [] => []
  | .many _ (cause :: _) => cause :: sources cause

/-- This mark stands before the headline of a cause. -/
def branchMark : List Char := ['└', '─', '─']

/-- This mark continues the indentation of an outer cause. -/
def passMark : List Char := ['|', ' ', ' ']

/-- Marks of outer causes become bars, and one more mark is added. -/
def deeper (indent : List Char) : List Char :=
  replaceAll branchMark passMark indent ++ branchMark

mutual

/-- There is one line for each failure of the tree, and a failure comes before its causes. -/
def treeLines (indent : List Char) : Failure → List String
  | .leaf report => [String.ofList indent ++ report.headline]
  | .single report cause =>
      (String.ofList indent ++ report.headline) :: treeLines (deeper indent) cause
  | .many report causes =>
      (String.ofList indent ++ report.headline) :: treeLinesOfAll (deeper indent) causes

def treeLinesOfAll (indent : List Char) : List Failure → List String
  | [] => []
  | failure :: failures => treeLines indent failure ++ treeLinesOfAll indent failures

end

/-- The drawing of the whole tree. -/
def drawing (failure : Failure) : String :=
  "\n".intercalate (failure.treeLines [])

end ParserCombinators.Failure
