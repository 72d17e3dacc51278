/-
This file defines failures. A failure is a tree whose causes are failures.
-/

import ParserCombinators.Text.Quoted

namespace ParserCombinators

open Text

/-- Leaf parsers report the kinds `literal`, `pattern` and `custom`. Combinators report the other
kinds. -/
inductive FailureKind
  | literal
  | pattern
  | choice
  | manyOne
  | rule (name : String)
  | custom (name : String)
  deriving DecidableEq, Repr

/-- Headlines show a kind by this name. -/
def FailureKind.name : FailureKind → String
  | .literal => "literal"
  | .pattern => "pattern"
  | .choice => "choice"
  | .manyOne => "manyOne"
  | .rule name => name
  | .custom name => name

/-- A report is what one failure says of itself. -/
structure Report where
  kind : FailureKind
  message : String
  position : Option Nat
  deriving DecidableEq, Repr

/-- The headline gives the kind, the position when there is one, and the message. -/
def Report.headline (report : Report) : String :=
  match report.position with
  | some position => report.kind.name ++ " at " ++ toString position ++ ": " ++ report.message
  | none => report.kind.name ++ ": " ++ report.message

/-- A failure has no cause, or one cause, or a list of causes. -/
inductive Failure
  | leaf (report : Report)
  | single (report : Report) (cause : Failure)
  | many (report : Report) (causes : List Failure)

/-- The part of a failure that says where it came from. -/
inductive Cause
  | single (cause : Failure)
  | many (causes : List Failure)

/-- No failures make no cause, and one failure makes a single cause. -/
def Cause.ofFailures : List Failure → Option Cause
  | [] => none
  | [failure] => some (.single failure)
  | failures => some (.many failures)

def Cause.failures : Cause → List Failure
  | .single failure => [failure]
  | .many failures => failures

namespace Failure

/-- A new failure knows neither a position nor a cause. -/
def new (kind : FailureKind) (message : String) : Failure :=
  .leaf ⟨kind, message, none⟩

/-- A failure without a cause at a known position. -/
def newAt (kind : FailureKind) (message : String) (position : Nat) : Failure :=
  .leaf ⟨kind, message, some position⟩

def report : Failure → Report
  | .leaf report => report
  | .single report _ => report
  | .many report _ => report

def kind (failure : Failure) : FailureKind := failure.report.kind

def message (failure : Failure) : String := failure.report.message

def position (failure : Failure) : Option Nat := failure.report.position

def headline (failure : Failure) : String := failure.report.headline

def cause : Failure → Option Cause
  | .leaf _ => none
  | .single _ cause => some (.single cause)
  | .many _ causes => some (.many causes)

/-- These are the direct causes, in order. -/
def causes : Failure → List Failure
  | .leaf _ => []
  | .single _ cause => [cause]
  | .many _ causes => causes

def isLeaf : Failure → Bool
  | .leaf _ => true
  | .single _ _ => false
  | .many _ _ => false

def ofReport (report : Report) : Option Cause → Failure
  | none => .leaf report
  | some (.single cause) => .single report cause
  | some (.many causes) => .many report causes

/-- The new cause takes the place of any earlier one. -/
def withCause (failure : Failure) (cause : Cause) : Failure :=
  ofReport failure.report (some cause)

def causedBy (failure cause : Failure) : Failure :=
  failure.withCause (.single cause)

/-- Without failures to choose from the earlier cause stays. -/
def causedByAll (failure : Failure) (causes : List Failure) : Failure :=
  match Cause.ofFailures causes with
  | some cause => failure.withCause cause
  | none => failure

def movedTo (failure : Failure) (position : Nat) : Failure :=
  ofReport { failure.report with position := some position } failure.cause

theorem ofReport_report_cause (failure : Failure) :
    ofReport failure.report failure.cause = failure := by
  cases failure <;> rfl

theorem report_ofReport (report : Report) (cause : Option Cause) :
    (ofReport report cause).report = report := by
  rcases cause with _ | cause
  · rfl
  · cases cause <;> rfl

theorem cause_ofReport (report : Report) (cause : Option Cause) :
    (ofReport report cause).cause = cause := by
  rcases cause with _ | cause
  · rfl
  · cases cause <;> rfl

end Failure

end ParserCombinators
