/-
This file defines patterns. A pattern is a search for matches together with the laws of its matches,
so everything about patterns holds whatever way of searching they use. Expressions are searched by
their programs.
-/

import ParserCombinators.Pattern.Search
import ParserCombinators.Pattern.Size
import ParserCombinators.Pattern.WrittenForm

namespace ParserCombinators

/-- A pattern finds its preferred match in a text from an offset on. The match lies between the
offset and the end of the text, and it divides no character. -/
structure Pattern where
  source : String
  find : List Char → Nat → Option Pattern.Span
  bounds : ∀ {text offset span}, find text offset = some span →
    offset ≤ span.start ∧ span.start ≤ span.stop ∧ span.stop ≤ Medium.measure .text text
  boundaries : ∀ {text offset span}, find text offset = some span →
    Medium.text.Boundary text span.start ∧ Medium.text.Boundary text span.stop

namespace Pattern

/-- A match that is found further on does not begin at the offset. -/
def matchFrom (pattern : Pattern) (text : List Char) (offset : Nat) : Option Span :=
  (pattern.find text offset).filter fun span => span.start == offset

def ofProgram (source : String) (program : Program) : Pattern where
  source := source
  find := program.find
  bounds := program.find_bounds
  boundaries := program.find_boundaries

def ofExpression (source : String) (expression : Expression) : Pattern :=
  ofProgram source (.ofExpression expression)

/-- An expression that exceeds the limit of size is refused. -/
def programOf (source : String) : Option Program :=
  match WrittenForm.read source with
  | some expression => if expression.fits then some (.ofExpression expression) else none
  | none => none

def compile (source : String) : Option Pattern := (programOf source).map (ofProgram source)

theorem compile_eq_some {source : String} {expression : Expression}
    (same : programOf source = some (.ofExpression expression)) :
    compile source = some (ofExpression source expression) := by
  rw [compile, same]
  rfl

/-- One or more digits of ASCII. -/
def digits : Pattern := ofExpression "[0-9]+" (.repetition 1 none true (.one .asciiDigit))

/-- The expression of `digits` is what its written form says. -/
theorem compile_digits : compile "[0-9]+" = some digits :=
  compile_eq_some (by decide +kernel)

/-- One or more white space characters. -/
def whiteSpace : Pattern := ofExpression "\\s+" (.repetition 1 none true (.one .whiteSpace))

/-- The expression of `whiteSpace` is what its written form says. -/
theorem compile_whiteSpace : compile "\\s+" = some whiteSpace :=
  compile_eq_some (by decide +kernel)

end Pattern

end ParserCombinators
