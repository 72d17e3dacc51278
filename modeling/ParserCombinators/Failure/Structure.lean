/-
This file compares failures part by part and writes out their whole structure.
-/

import ParserCombinators.Failure.Basic

namespace ParserCombinators

open Text

/-- The kind with its name, if it has one. -/
def FailureKind.describe : FailureKind → String
  | .literal => "Literal"
  | .pattern => "Pattern"
  | .choice => "Choice"
  | .manyOne => "ManyOne"
  | .rule name => "Rule(" ++ quoteText name ++ ")"
  | .custom name => "Custom(" ++ quoteText name ++ ")"

/-- The parts of a report, followed by the text that describes the cause. -/
def Report.describe (report : Report) (cause : String) : String :=
  "ParseError \x7b kind: " ++ report.kind.describe ++ ", message: " ++ quoteText report.message ++
    ", position: " ++ showOptional (report.position.map toString) ++ ", cause: " ++ cause ++ " \x7d"

namespace Failure

mutual

/-- The whole structure of a failure on one line. -/
def describe : Failure → String
  | .leaf report => report.describe "None"
  | .single report cause => report.describe ("Some(Single(" ++ describe cause ++ "))")
  | .many report causes =>
      report.describe ("Some(Many(" ++ showItems (describeAll causes) ++ "))")

def describeAll : List Failure → List String
  | [] => []
  | failure :: failures => describe failure :: describeAll failures

end

mutual

/-- Two failures are the same when their reports, the forms of their causes and the causes are. -/
def same : Failure → Failure → Bool
  | .leaf first, .leaf second => first == second
  | .single first cause, .single second cause' => first == second && same cause cause'
  | .many first causes, .many second causes' => first == second && sameAll causes causes'
  | _, _ => false

def sameAll : List Failure → List Failure → Bool
  | [], [] => true
  | first :: firsts, second :: seconds => same first second && sameAll firsts seconds
  | _, _ => false

end

instance : BEq Failure where
  beq := same

mutual

theorem same_iff : ∀ first second : Failure, same first second = true ↔ first = second
  | .leaf first, second => by
      cases second <;> simp [same]
  | .single first cause, second => by
      cases second <;> simp [same, same_iff cause]
  | .many first causes, second => by
      cases second <;> simp [same, sameAll_iff causes]

theorem sameAll_iff : ∀ firsts seconds : List Failure,
    sameAll firsts seconds = true ↔ firsts = seconds
  | [], seconds => by
      cases seconds <;> simp [sameAll]
  | first :: firsts, seconds => by
      cases seconds <;> simp [sameAll, same_iff first, sameAll_iff firsts]

end

end Failure

end ParserCombinators
