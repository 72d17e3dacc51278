/-
This file describes how a cursor may move: never back, never past the end of the input and never
into an element.
-/

import ParserCombinators.Leaf

namespace ParserCombinators

variable {medium : Medium}

/-- Only the empty list of elements measures nothing. -/
theorem Medium.measure_eq_zero_iff (elements : List medium.Element) :
    medium.measure elements = 0 ↔ elements = [] := by
  cases elements with
  | nil => simp [measure]
  | cons element elements =>
      have positive := medium.width_pos element
      simp only [measure, reduceCtorEq, iff_false]
      omega

/-- The measure of a part of a slice is its length. -/
theorem Medium.measure_slice {Element : Type} (render : Element → String)
    (elements : List Element) :
    Medium.measure (.slice Element render) elements = elements.length := by
  induction elements with
  | nil => rfl
  | cons element elements inductionHypothesis =>
      rw [Medium.measure, inductionHypothesis, List.length_cons]
      exact Nat.add_comm 1 _

/-- The elements up to a length begin the others and measure that length. -/
theorem Medium.upTo_eq_some {elements first : List medium.Element} {length : Nat}
    (found : medium.upTo elements length = some first) :
    ∃ more, elements = first ++ more ∧ medium.measure first = length := by
  induction elements generalizing first length with
  | nil =>
      cases length with
      | zero => exact ⟨[], by simpa [upTo] using found.symm, by simp_all [upTo, measure]⟩
      | succ length => simp [upTo] at found
  | cons element elements inductionHypothesis =>
      cases length with
      | zero =>
          simp only [upTo, Option.some.injEq] at found
          subst found
          exact ⟨element :: elements, rfl, rfl⟩
      | succ length =>
          simp only [upTo] at found
          split at found
          next fits =>
            obtain ⟨others, foundOthers, rfl⟩ := Option.map_eq_some_iff.mp found
            obtain ⟨more, same, total⟩ := inductionHypothesis foundOthers
            refine ⟨more, by rw [same]; rfl, ?_⟩
            rw [measure, total]
            omega
          next => cases found

/-- Of two ways to split the same elements, the shorter first part begins the longer one. -/
theorem Medium.split_of_measure_le {first rest first' rest' : List medium.Element}
    (same : first ++ rest = first' ++ rest')
    (shorter : medium.measure first ≤ medium.measure first') :
    ∃ between, first' = first ++ between ∧ rest = between ++ rest' := by
  rcases List.append_eq_append_iff.mp same with
    ⟨between, longer, remaining⟩ | ⟨between, longer, remaining⟩
  · exact ⟨between, longer, remaining⟩
  · have total : medium.measure between = 0 := by
      rw [longer, medium.measure_append] at shorter
      omega
    have none : between = [] := (Medium.measure_eq_zero_iff between).mp total
    subst none
    exact ⟨[], by simpa using longer.symm, by simpa using remaining.symm⟩

namespace Cursor

/-- The index of such a cursor lies within an input whose length is a machine word. -/
structure Valid (cursor : Cursor medium) : Prop where
  within : cursor.index ≤ cursor.length
  addressable : cursor.length < indexBound

/-- Some first elements of the input end exactly at the index. -/
def OnBoundary (cursor : Cursor medium) : Prop := medium.Boundary cursor.input cursor.index

/-- The cursor behind the first part of an input has the second part as its rest. -/
theorem rest_append (first rest : List medium.Element) :
    (⟨first ++ rest, medium.measure first⟩ : Cursor medium).rest = rest := by
  have found : medium.after (first ++ rest) (medium.measure first) = some rest :=
    (medium.after_eq_some_iff _ _ _).mpr ⟨first, rfl, rfl⟩
  simp [Cursor.rest, found]

/-- On a boundary the rest is what follows the elements before the index. -/
theorem OnBoundary.split {cursor : Cursor medium} (boundary : cursor.OnBoundary) :
    ∃ first, cursor.input = first ++ cursor.rest ∧ medium.measure first = cursor.index := by
  obtain ⟨input, index⟩ := cursor
  obtain ⟨first, ⟨rest, rfl⟩, rfl⟩ := boundary
  exact ⟨first, by rw [rest_append], rfl⟩

theorem onBoundary_of_split {cursor : Cursor medium} {first rest : List medium.Element}
    (same : cursor.input = first ++ rest) (total : medium.measure first = cursor.index) :
    cursor.OnBoundary := ⟨first, ⟨rest, same.symm⟩, total⟩

/-- Inside an element there is nothing to read. -/
theorem rest_eq_nil_of_not_onBoundary {cursor : Cursor medium} (inside : ¬ cursor.OnBoundary) :
    cursor.rest = [] := by
  cases found : medium.after cursor.input cursor.index with
  | none => simp [Cursor.rest, found]
  | some rest =>
      obtain ⟨first, same, total⟩ := (medium.after_eq_some_iff _ _ _).mp found
      exact absurd (onBoundary_of_split same total) inside

/-- On a boundary the length of the input is the index and the measure of the rest. -/
theorem OnBoundary.length_eq {cursor : Cursor medium} (boundary : cursor.OnBoundary) :
    cursor.length = cursor.index + medium.measure cursor.rest := by
  obtain ⟨first, same, total⟩ := boundary.split
  have whole := congrArg medium.measure same
  rw [medium.measure_append, total] at whole
  exact whole

/-- On a boundary nothing is left to read exactly at the end of the input. -/
theorem OnBoundary.rest_eq_nil_iff {cursor : Cursor medium} (boundary : cursor.OnBoundary) :
    cursor.rest = [] ↔ cursor.isEnd = true := by
  have whole := boundary.length_eq
  rw [← Medium.measure_eq_zero_iff cursor.rest, isEnd, decide_eq_true_iff]
  omega

/-- A parser moves a cursor within its input and not back. From a boundary it comes to a boundary,
and from inside an element it does not move at all. -/
structure Leads (cursor next : Cursor medium) : Prop where
  sameInput : next.input = cursor.input
  forward : cursor.index ≤ next.index
  within : next.index ≤ next.length
  boundary : cursor.OnBoundary → next.OnBoundary
  stays : ¬ cursor.OnBoundary → next.index = cursor.index

namespace Leads

theorem refl {cursor : Cursor medium} (valid : cursor.Valid) : cursor.Leads cursor where
  sameInput := rfl
  forward := Nat.le_refl _
  within := valid.within
  boundary := id
  stays _ := rfl

theorem eq_of_index_eq {cursor next : Cursor medium} (leads : cursor.Leads next)
    (same : next.index = cursor.index) : next = cursor := by
  have sameInput := leads.sameInput
  cases cursor
  cases next
  simp_all

theorem valid {cursor next : Cursor medium} (leads : cursor.Leads next) (valid : cursor.Valid) :
    next.Valid where
  within := leads.within
  addressable := by
    rw [Cursor.length, leads.sameInput]
    exact valid.addressable

theorem trans {cursor next last : Cursor medium} (first : cursor.Leads next)
    (second : next.Leads last) : cursor.Leads last where
  sameInput := second.sameInput.trans first.sameInput
  forward := Nat.le_trans first.forward second.forward
  within := second.within
  boundary onBoundary := second.boundary (first.boundary onBoundary)
  stays inside := by
    have same := first.eq_of_index_eq (first.stays inside)
    subst same
    exact second.stays inside

/-- From a boundary, a move skips some of the elements to read. -/
theorem split {cursor next : Cursor medium} (leads : cursor.Leads next)
    (boundary : cursor.OnBoundary) :
    ∃ consumed, cursor.rest = consumed ++ next.rest ∧
      next.index = cursor.index + medium.measure consumed := by
  obtain ⟨first, same, total⟩ := boundary.split
  obtain ⟨first', same', total'⟩ := (leads.boundary boundary).split
  have joined : first ++ cursor.rest = first' ++ next.rest := by
    rw [← same, ← same', leads.sameInput]
  obtain ⟨consumed, longer, remaining⟩ :=
    Medium.split_of_measure_le joined (by rw [total, total']; exact leads.forward)
  refine ⟨consumed, remaining, ?_⟩
  rw [← total', longer, medium.measure_append, total]

/-- A move leaves at most as much to read. -/
theorem rest_length_le {cursor next : Cursor medium} (leads : cursor.Leads next) :
    next.rest.length ≤ cursor.rest.length := by
  by_cases boundary : cursor.OnBoundary
  · obtain ⟨consumed, remaining, _⟩ := leads.split boundary
    rw [remaining, List.length_append]
    omega
  · have same := leads.eq_of_index_eq (leads.stays boundary)
    exact Nat.le_of_eq (congrArg (List.length ∘ Cursor.rest) same)

/-- A move that changes the index leaves less to read. -/
theorem rest_length_lt {cursor next : Cursor medium} (leads : cursor.Leads next)
    (moved : next.index ≠ cursor.index) : next.rest.length < cursor.rest.length := by
  by_cases boundary : cursor.OnBoundary
  · obtain ⟨consumed, remaining, total⟩ := leads.split boundary
    have some : consumed ≠ [] := by
      rintro rfl
      exact moved (by simpa [Medium.measure] using total)
    have positive := List.length_pos_iff.mpr some
    rw [remaining, List.length_append]
    omega
  · exact absurd (leads.stays boundary) moved

end Leads

/-- The cursor behind some elements to read. -/
def past (cursor : Cursor medium) (consumed : List medium.Element) : Cursor medium :=
  { cursor with index := cursor.index + medium.measure consumed }

/-- Elements to read end within the input. -/
theorem index_add_measure_le {cursor : Cursor medium} (valid : cursor.Valid)
    {consumed more : List medium.Element} (unread : cursor.rest = consumed ++ more) :
    cursor.index + medium.measure consumed ≤ cursor.length := by
  by_cases boundary : cursor.OnBoundary
  · have whole := boundary.length_eq
    rw [unread, medium.measure_append] at whole
    omega
  · have nothing := rest_eq_nil_of_not_onBoundary boundary
    rw [unread, List.append_eq_nil_iff] at nothing
    rw [nothing.1]
    exact valid.within

/-- Skipping elements to read is a move. -/
theorem leads_past {cursor : Cursor medium} (valid : cursor.Valid)
    {consumed more : List medium.Element} (unread : cursor.rest = consumed ++ more) :
    cursor.Leads (cursor.past consumed) where
  sameInput := rfl
  forward := Nat.le_add_right _ _
  within := index_add_measure_le valid unread
  boundary onBoundary := by
    obtain ⟨first, same, total⟩ := onBoundary.split
    rw [unread, ← List.append_assoc] at same
    exact onBoundary_of_split same (by rw [medium.measure_append, total]; rfl)
  stays inside := by
    have nothing := rest_eq_nil_of_not_onBoundary inside
    rw [unread, List.append_eq_nil_iff] at nothing
    rw [nothing.1]
    rfl

theorem past_nil (cursor : Cursor medium) : cursor.past [] = cursor := rfl

theorem past_past (cursor : Cursor medium) (first second : List medium.Element) :
    (cursor.past first).past second = cursor.past (first ++ second) := by
  simp only [past, medium.measure_append, Nat.add_assoc]

/-- Behind some elements to read the others are left. -/
theorem rest_past {cursor : Cursor medium} {consumed more : List medium.Element}
    (unread : cursor.rest = consumed ++ more) : (cursor.past consumed).rest = more := by
  by_cases boundary : cursor.OnBoundary
  · obtain ⟨first, same, total⟩ := boundary.split
    have moved : cursor.past consumed =
        ⟨(first ++ consumed) ++ more, medium.measure (first ++ consumed)⟩ := by
      rw [past, medium.measure_append, total, List.append_assoc, ← unread, ← same]
    rw [moved, rest_append]
  · have nothing := rest_eq_nil_of_not_onBoundary boundary
    obtain ⟨rfl, rfl⟩ := List.append_eq_nil_iff.mp (unread.symm.trans nothing)
    rw [past_nil, nothing]

/-- A valid cursor on a boundary is ready to read. -/
structure Ready (cursor : Cursor medium) : Prop extends cursor.Valid where
  onBoundary : cursor.OnBoundary

/-- A move ends where the cursor is ready again. -/
theorem Leads.ready {cursor next : Cursor medium} (leads : cursor.Leads next)
    (ready : cursor.Ready) : next.Ready where
  toValid := leads.valid ready.toValid
  onBoundary := leads.boundary ready.onBoundary

theorem ready_start {input : List medium.Element}
    (addressable : medium.measure input < indexBound) : (start input).Ready where
  within := Nat.zero_le _
  addressable := addressable
  onBoundary := ⟨[], List.nil_prefix, rfl⟩

theorem rest_start (input : List medium.Element) : (start input).rest = input :=
  rest_append [] input

theorem past_start (input consumed : List medium.Element) :
    (start input).past consumed = ⟨input, medium.measure consumed⟩ := by
  rw [past, start, Nat.zero_add]

theorem rest_ofText (text : String) : (ofText text).rest = text.toList := rest_start _

section

variable {cursor : Cursor medium} {consumed more : List medium.Element}

/-- Behind some elements to read a cursor is ready again. -/
theorem Ready.past (ready : cursor.Ready) (unread : cursor.rest = consumed ++ more) :
    (cursor.past consumed).Ready :=
  (leads_past ready.toValid unread).ready ready

/-- A longer part of the elements to read ends further on. -/
theorem Ready.leads_past_past (ready : cursor.Ready) (unread : cursor.rest = consumed ++ more)
    {first : List medium.Element} (begins : first <+: consumed) :
    (cursor.past first).Leads (cursor.past consumed) := by
  obtain ⟨others, rfl⟩ := begins
  rw [List.append_assoc] at unread
  rw [← past_past]
  exact leads_past (ready.past unread).toValid (rest_past unread)

end

end Cursor

/-- Taking the next elements to read succeeds and gives just these elements. -/
theorem Reading.consume_eq_success {A : Type} {cursor : Cursor medium} (valid : cursor.Valid)
    {consumed more : List medium.Element} (unread : cursor.rest = consumed ++ more)
    (value : List medium.Element → A) :
    Reading.consume cursor (medium.measure consumed) value =
      .success (cursor.past consumed) (value consumed) := by
  have fits := Cursor.index_add_measure_le valid unread
  have addressable := valid.addressable
  have advanced : cursor.advance (medium.measure consumed) = .ok (cursor.past consumed) := by
    rw [Cursor.advance, if_neg (by omega), if_neg (by omega)]
    rfl
  have taken : cursor.cut (medium.measure consumed) = .ok consumed := by
    rw [Cursor.cut, unread, medium.upTo_append]
  simp [Reading.consume, advanced, taken]

end ParserCombinators
