/-
This file counts the nodes of trees that are written with brackets.
-/

import ParserCombinators.Parser.Basic

namespace ParserCombinators.BracketTree

open ParserCombinators.Parser

/-- Only the node is recursive. -/
inductive Rule
  | node

@[reducible] def signature : Signature := ⟨.text, Unit, Rule, fun _ => Nat⟩

def bracket (symbol : String) : Parser signature String := leaf (.literal symbol)

/-- A node counts itself and the nodes of its children. -/
def node : Parser signature Nat :=
  map (fun children => 1 + children.foldr (· + ·) 0)
    (between (bracket "[") (bracket "]") (many (rule Rule.node)))

def grammar : Grammar signature
  | .node => node

/-- Every nested node and every round consumes a character, so this much fuel is enough. -/
def fuel (text : String) : Nat := text.length + 2

def countNodes (text : String) : Outcome .text Unit Nat :=
  grammar.run (fuel text) node text.toList ()

end ParserCombinators.BracketTree
