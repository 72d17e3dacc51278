/-
This file shows that the parser of nodes reads just the trees that are written with brackets, and
that it counts their nodes.
-/

import ParserCombinators.Proofs.Ending
import ParserCombinators.Proofs.GrammarTermination
import ParserCombinators.Proofs.Words

namespace ParserCombinators.BracketTree

open ParserCombinators.Parser

/-- An ordered tree is a node with children. -/
inductive Tree
  | node (children : List Tree)

namespace Tree

mutual

/-- A node is written as its children between brackets. -/
def render : Tree → List Char
  | .node children => '[' :: (renderAll children ++ [']'])

def renderAll : List Tree → List Char
  | [] => []
  | tree :: trees => render tree ++ renderAll trees

end

mutual

def nodeCount : Tree → Nat
  | .node children => 1 + nodeCountOfAll children

def nodeCountOfAll : List Tree → Nat
  | [] => 0
  | tree :: trees => nodeCount tree + nodeCountOfAll trees

end

theorem renderAll_eq_flatMap (trees : List Tree) : renderAll trees = trees.flatMap render := by
  induction trees with
  | nil => rfl
  | cons tree trees inductionHypothesis =>
      rw [renderAll, inductionHypothesis, List.flatMap_cons]

theorem nodeCountOfAll_eq_foldr (trees : List Tree) :
    nodeCountOfAll trees = (trees.map nodeCount).foldr (· + ·) 0 := by
  induction trees with
  | nil => rfl
  | cons tree trees inductionHypothesis =>
      rw [nodeCountOfAll, inductionHypothesis, List.map_cons, List.foldr_cons]

theorem render_node_append (children : List Tree) (rest : List Char) :
    (node children).render ++ rest = '[' :: (renderAll children ++ ']' :: rest) := by
  rw [render, List.cons_append, List.append_assoc, List.singleton_append]

mutual

/-- No written tree begins another one. -/
theorem eq_of_render_append : ∀ (tree tree' : Tree) {rest rest' : List Char},
    tree.render ++ rest = tree'.render ++ rest' → tree = tree'
  | .node children, .node children', _, _, same => by
      rw [render_node_append, render_node_append] at same
      rw [eq_of_renderAll_append children children' (List.cons.inj same).2]

/-- A closing bracket ends the children, because each of them begins with an opening one. -/
theorem eq_of_renderAll_append : ∀ (trees trees' : List Tree) {rest rest' : List Char},
    renderAll trees ++ ']' :: rest = renderAll trees' ++ ']' :: rest' → trees = trees'
  | [], [], _, _, _ => rfl
  | [], .node children :: trees, _, _, same => by
      rw [renderAll, renderAll, List.append_assoc, render_node_append] at same
      cases same
  | .node children :: trees, [], _, _, same => by
      rw [renderAll, renderAll, List.append_assoc, render_node_append] at same
      cases same
  | tree :: trees, tree' :: trees', _, _, same => by
      rw [renderAll, renderAll, List.append_assoc, List.append_assoc] at same
      obtain rfl := eq_of_render_append tree tree' same
      rw [eq_of_renderAll_append trees trees' (List.append_cancel_left same)]

end

end Tree

/-- The words are the written trees. -/
def vocabulary : Vocabulary Char Tree := ⟨Tree.render, fun _ _ => True⟩

theorem begins_iff {text rest : List Char} {tree : Tree} :
    vocabulary.Begins text tree rest ↔ text = tree.render ++ rest :=
  ⟨fun begins => begins.written, fun written => ⟨written, trivial⟩⟩

/-- A tree begins with a bracket. -/
theorem begins_node_iff {text rest : List Char} {children : List Tree} :
    vocabulary.Begins text (.node children) rest ↔
      text = '[' :: (children.flatMap Tree.render ++ ']' :: rest) := by
  rw [begins_iff, Tree.render_node_append, Tree.renderAll_eq_flatMap]

theorem unambiguous : vocabulary.Unambiguous where
  unique := by
    intro text rest rest' tree tree' begins begins'
    exact tree.eq_of_render_append tree' (begins.written.symm.trans begins'.written)
  nonempty := by
    intro text rest tree begins
    cases tree with
    | node children => exact List.cons_ne_nil _ _

/-- Behind an opening bracket the children are read as far as possible. Then the node must end. -/
theorem begins_iff_of_splits {inner after rest : List Char} {forest children : List Tree}
    (splits : vocabulary.Splits inner forest after) :
    vocabulary.Begins ('[' :: inner) (.node children) rest ↔
      forest = children ∧ after = ']' :: rest := by
  rw [begins_node_iff]
  constructor
  · intro written
    have closed : vocabulary.Splits inner children (']' :: rest) := by
      have words : vocabulary.Splits inner children (']' :: rest) ↔ _ :=
        Vocabulary.Splits.iff_written fun _ _ => Iff.rfl
      refine words.mpr ⟨(List.cons.inj written).2, fun _ _ => trivial, ?_⟩
      rintro ⟨grandchildren⟩ more begins
      cases begins_node_iff.mp begins
    exact splits.unique unambiguous closed
  · rintro ⟨rfl, rfl⟩
    exact congrArg ('[' :: ·) splits.written

variable {call : (rule : Rule) → Behaviour .text Unit Nat} {fuel : Nat}

/-- When the nested nodes are read, a node is. -/
theorem reads_node (reads : (call .node).ReadsWord vocabulary Tree.nodeCount) :
    (node.behaviour call fuel).ReadsWord vocabulary Tree.nodeCount := by
  intro cursor ready
  have opening : ((bracket "[").behaviour call fuel).Ensures cursor
      (fun next _ => ∃ inner, cursor.rest = '[' :: inner ∧ next = cursor.past ['['])
      (∀ tree rest, ¬ vocabulary.Begins cursor.rest tree rest) := by
    refine (Behaviour.Ensures.literal ready.toValid "[").imp ?_ ?_
    · rintro next _ ⟨_, inner, unread, rfl⟩
      exact ⟨inner, unread, rfl⟩
    · rintro refused ⟨children⟩ rest begins
      exact refused ⟨_, (begins_node_iff.mp begins).symm⟩
  have content (next : Cursor .text)
      (opened : ∃ inner, cursor.rest = '[' :: inner ∧ next = cursor.past ['[']) :
      ((many (rule Rule.node)).behaviour call fuel).Ensures next
        (fun next counts => ∃ inner forest after, cursor.rest = '[' :: inner ∧
          vocabulary.Splits inner forest after ∧
            next = cursor.past ('[' :: forest.flatMap Tree.render) ∧
              counts = forest.map Tree.nodeCount)
        (∀ tree rest, ¬ vocabulary.Begins cursor.rest tree rest) := by
    obtain ⟨inner, unread, rfl⟩ := opened
    have split : cursor.rest = ['['] ++ inner := unread
    have called := reads.announce .lazy
    refine (called.repeatFrom fuel (ready.past split) []).many.imp ?_ False.elim
    rintro next counts ⟨forest, after, splits, rfl, rfl⟩
    rw [Cursor.rest_past split] at splits
    refine ⟨inner, forest, after, unread, splits, ?_, rfl⟩
    rw [Cursor.past_past]
    rfl
  apply Behaviour.Ensures.map
  apply ensures_between opening content
  rintro next counts ⟨inner, forest, after, unread, splits, rfl, rfl⟩
  have split : cursor.rest = ('[' :: forest.flatMap Tree.render) ++ after := by
    rw [unread, splits.written]
    rfl
  refine (Behaviour.Ensures.literal (ready.past split).toValid "]").imp ?_ ?_
  · rintro last _ ⟨_, rest, behind, rfl⟩
    rw [Cursor.rest_past split] at behind
    have begins : vocabulary.Begins cursor.rest (.node forest) rest := by
      rw [unread]
      exact (begins_iff_of_splits splits).mpr ⟨rfl, behind⟩
    refine ⟨.node forest, rest, begins, ?_, ?_⟩
    · have written : Tree.render (.node forest) = ('[' :: forest.flatMap Tree.render) ++ [']'] := by
        rw [Tree.render, Tree.renderAll_eq_flatMap, List.cons_append]
      show _ = cursor.past (Tree.render (.node forest))
      rw [Cursor.past_past, written]
      rfl
    · rw [Tree.nodeCount, Tree.nodeCountOfAll_eq_foldr]
  · rintro refused ⟨children⟩ rest begins
    rw [unread] at begins
    obtain ⟨_, closed⟩ := (begins_iff_of_splits splits).mp begins
    rw [Cursor.rest_past split, closed] at refused
    exact refused ⟨rest, rfl⟩

/-- However deep the calls may go, a call reads a node. -/
theorem reads_call (fuel : Nat) :
    (grammar.call fuel .node).ReadsWord vocabulary Tree.nodeCount := by
  induction fuel with
  | zero =>
      intro cursor _ session
      trivial
  | succ fuel inductionHypothesis => exact reads_node inductionHypothesis

theorem reads_outcome (fuel : Nat) :
    (grammar.outcome fuel node).ReadsWord vocabulary Tree.nodeCount :=
  reads_node (reads_call fuel)

/-- One unit of fuel for each character to read is enough. -/
theorem node_returned {cursor : Cursor .text} (ready : cursor.Ready)
    (enough : cursor.rest.length < fuel) (session : Session Unit) :
    (grammar.outcome fuel node cursor session).Returned := by
  have lawful := grammar_lawful .node
  have finishes := Grammar.outcome_finishes_of_noCalls grammar_lawful
    grammar_wellFormed.productive (fun | .node => node_not_callsLeft) lawful
    (grammar_wellFormed.productive .node) node_not_callsLeft enough
  have finished := finishes cursor ready.toValid (Nat.lt_succ_self _) session
  exact (Grammar.outcome_safe grammar_lawful lawful fuel cursor ready.toValid session).returned
    finished

section

variable {cursor : Cursor .text} (ready : cursor.Ready) {fuel : Nat}
  (enough : cursor.rest.length < fuel) (session : Session Unit)

include ready enough

/-- A tree that is written at the cursor is read. -/
theorem outcome_of_written {tree : Tree} {rest : List Char}
    (written : cursor.rest = tree.render ++ rest) :
    ∃ final, grammar.outcome fuel node cursor session =
      .success (cursor.past tree.render) tree.nodeCount final := by
  have begins := begins_iff.mpr written
  rcases (node_returned ready enough session).success_or_failure with
    ⟨next, count, final, same⟩ | ⟨reason, final, same⟩
  · obtain ⟨found, more, begins', rfl, rfl⟩ :=
      (reads_outcome fuel cursor ready session).of_success same
    obtain rfl := unambiguous.unique begins begins'
    exact ⟨final, same⟩
  · exact absurd begins ((reads_outcome fuel cursor ready session).of_failure same tree rest)

/-- Where no tree is written the parse fails. -/
theorem outcome_of_not_written
    (notWritten : ∀ tree rest, cursor.rest ≠ Tree.render tree ++ rest) :
    ∃ reason final, grammar.outcome fuel node cursor session = .failure reason final := by
  rcases (node_returned ready enough session).success_or_failure with
    ⟨next, count, final, same⟩ | failed
  · obtain ⟨tree, rest, begins, _⟩ := (reads_outcome fuel cursor ready session).of_success same
    exact absurd begins.written (notWritten tree rest)
  · exact failed

end

/-- A text that begins with a written tree has as many nodes as the tree. -/
theorem countNodes_of_written {text : String} {tree : Tree} {rest : List Char}
    (addressable : (Cursor.ofText text).length < Cursor.indexBound)
    (written : text.toList = tree.render ++ rest) :
    ∃ final, countNodes text =
      .success ⟨text.toList, Medium.measure .text tree.render⟩ tree.nodeCount final := by
  have ready : (Cursor.ofText text).Ready := Cursor.ready_start addressable
  have unread := Cursor.rest_ofText text
  have enough : (Cursor.ofText text).rest.length < BracketTree.fuel text := by
    rw [unread, String.length_toList, BracketTree.fuel]
    omega
  have success := outcome_of_written ready enough (.initial ()) (unread.trans written)
  rw [Cursor.ofText, Cursor.past_start] at success
  exact success

/-- A parse of a node returns. It succeeds just behind a written tree, with the number of its nodes.
There is at most one such tree at the cursor, and the parse fails if there is none. A tree up to the
end of the text is read to the end. -/
theorem node_reads_written_trees {cursor : Cursor .text} (ready : cursor.Ready)
    (session : Session Unit) :
    (∀ fuel, cursor.rest.length < fuel → (grammar.outcome fuel node cursor session).Returned) ∧
      (∀ next count, grammar.Succeeds node cursor session next count ↔
        ∃ tree rest, cursor.rest = Tree.render tree ++ rest ∧
          next = cursor.past tree.render ∧ count = tree.nodeCount) ∧
      (∀ tree tree' rest rest', cursor.rest = Tree.render tree ++ rest →
        cursor.rest = Tree.render tree' ++ rest' → tree = tree' ∧ rest = rest') ∧
      (grammar.Fails node cursor session ↔
        ∀ tree rest, cursor.rest ≠ Tree.render tree ++ rest) ∧
      ∀ tree, cursor.rest = Tree.render tree →
        ∃ next, grammar.Succeeds node cursor session next tree.nodeCount ∧ next.isEnd = true := by
  have written {tree : Tree} {rest : List Char} (same : cursor.rest = tree.render ++ rest) :
      grammar.Succeeds node cursor session (cursor.past tree.render) tree.nodeCount :=
    ⟨_, outcome_of_written ready (Nat.lt_succ_self _) session same⟩
  refine ⟨fun fuel enough => node_returned ready enough session, ?_, ?_, ?_, ?_⟩
  · intro next count
    constructor
    · rintro ⟨fuel, final, success⟩
      obtain ⟨tree, rest, begins, same, counted⟩ :=
        (reads_outcome fuel cursor ready session).of_success success
      exact ⟨tree, rest, begins.written, same, counted⟩
    · rintro ⟨tree, rest, same, rfl, rfl⟩
      exact written same
  · intro tree tree' rest rest' same same'
    exact unambiguous.rest_eq (begins_iff.mpr same) (begins_iff.mpr same')
  · constructor
    · intro fails tree rest same
      exact (written same).not_fails fails
    · intro notWritten
      exact ⟨_, outcome_of_not_written ready (Nat.lt_succ_self _) session notWritten⟩
  · intro tree same
    rw [← List.append_nil tree.render] at same
    refine ⟨_, written same, ?_⟩
    exact (ready.past same).onBoundary.rest_eq_nil_iff.mp (Cursor.rest_past same)

/-- A node with two children, of which the second one has a child, is read behind another text. -/
theorem node_reads_written_tree_behind_text :
    (⟨"x[[][[]]]".toList, 1⟩ : Cursor .text).Ready ∧
      ∃ next, grammar.Succeeds node ⟨"x[[][[]]]".toList, 1⟩ (.initial ()) next 4 ∧
        next.isEnd = true := by
  have ready : (⟨"x[[][[]]]".toList, 1⟩ : Cursor .text).Ready :=
    { within := by decide, addressable := by decide, onBoundary := ⟨['x'], ⟨_, rfl⟩, rfl⟩ }
  have reads := (node_reads_written_trees ready (.initial ())).2.2.2.2
  exact ⟨ready, reads (.node [.node [], .node [.node []]]) rfl⟩

end ParserCombinators.BracketTree
