/-
This file turns expressions into programs. Several threads may follow a program at once.
-/

import ParserCombinators.Pattern.Expression

namespace ParserCombinators.Pattern

/-- Instructions name the addresses at which a thread goes on. A branch prefers its first target. -/
inductive Instruction
  | accept
  | read (characters : CharacterClass) (next : Nat)
  | check (condition : Assertion) (next : Nat)
  | branch (preferred other : Nat)
  deriving Repr, DecidableEq

/-- A program lists its instructions by their addresses. Threads begin at the entry. -/
structure Program where
  code : Array Instruction
  entry : Nat
  deriving Repr, DecidableEq

namespace Program

/-- The program that accepts at once. -/
def accepting : Program := ⟨#[.accept], 0⟩

/-- The new instruction becomes the entry. -/
def enter (program : Program) (instruction : Instruction) : Program :=
  let address := program.code.size
  ⟨program.code.push instruction, address⟩

/-- A greedy branch prefers the entry of the program, and another branch prefers the other
address. -/
def branchTo (greedy : Bool) (other : Nat) (program : Program) : Program :=
  program.enter
    (if greedy then .branch program.entry other else .branch other program.entry)

/-- The body is put before an address that is not known yet. That address becomes a branch back to
the body. -/
def loop (greedy : Bool) (body : Program → Program) (program : Program) : Program :=
  let address := program.code.size
  let exit := program.entry
  let inside := body (program.enter .accept)
  let start := inside.entry
  let back : Instruction := if greedy then .branch start exit else .branch exit start
  ⟨inside.code.setIfInBounds address back, start⟩

/-- Threads that have read a match of the expression go on at the entry of the given program. A
repetition of matches that may be empty enters its body in two ways, so that the body is preferred
even after an empty round. -/
def before : Expression → Program → Program
  | .empty, program => program
  | .text characters, program =>
      characters.foldr
        (fun character program => program.enter (.read (.single character) program.entry)) program
  | .one characters, program => program.enter (.read characters program.entry)
  | .assertion condition, program => program.enter (.check condition program.entry)
  | .group _ inner, program => before inner program
  | .append first second, program => before first (before second program)
  | .either preferred other, program =>
      let exit := program.entry
      let right := before other program
      let second := right.entry
      let left := before preferred ⟨right.code, exit⟩
      left.enter (.branch left.entry second)
  | .repetition low high greedy repeated, program =>
      let body := before repeated
      let exit := program.entry
      let tail :=
        match low, high with
        | 0, none =>
            if repeated.consumes then
              let address := program.code.size
              ⟨(loop greedy body program).code, address⟩
            else branchTo greedy exit (loop greedy body program)
        | _ + 1, none => loop greedy body program
        | low, some high =>
            Nat.repeat (fun following => branchTo greedy exit (body following)) (high - low)
              program
      let copies :=
        match high with
        | none => low - 1
        | some _ => low
      Nat.repeat body copies tail

/-- A program for the whole expression. -/
def ofExpression (expression : Expression) : Program := before expression accepting

end Program

end ParserCombinators.Pattern
