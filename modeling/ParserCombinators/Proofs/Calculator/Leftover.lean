/-
This file shows what a failed evaluation leaves over. The text before it is the longest program at
the beginning of the whole text.
-/

import ParserCombinators.Proofs.Calculator.Reach

namespace ParserCombinators.Calculator

open ParserCombinators.Parser ParserCombinators.Pattern ParserCombinators.Text

variable {N : Type} {arithmetic : Arithmetic N}
  {call : (rule : Rule) → Behaviour .text Unit ((signature N).result rule)} {fuel : Nat}
  {cursor : Cursor .text}

/-- An expression may end before a semicolon, whatever stands behind the further expressions. -/
theorem Following.mayEnd_append {rest : List Char} {trees : List Tree}
    (following : Following rest trees) (some : rest ≠ []) (more : List Char) :
    (Phrase.level .sum).MayEnd (rest ++ more) := by
  cases rest with
  | nil => exact absurd rfl some
  | cons character rest => exact following.mayEnd

section

variable {item : Behaviour .text Unit N}

/-- Further expressions only lead on, and they never fail. -/
theorem leads_following (recognizes : Recognizes arithmetic (.level .sum) item) (rounds : Nat)
    (ready : cursor.Ready) (values : List N) :
    (Behaviour.repeatFrom (nextItem call fuel item) rounds values).Ensures cursor
      (fun next _ => cursor.Leads next) False := by
  apply Behaviour.Ensures.repeatFrom_leads _ rounds ready values
  intro cursor ready
  refine (sound_nextItem recognizes ready).imp ?_ id
  rintro next value ⟨space, text, more, tree, _, unread, rfl, _, _⟩
  exact Cursor.leads_past ready.toValid unread

/-- Items only lead on, and they never fail. -/
theorem leads_items (recognizes : Recognizes arithmetic (.level .sum) item) (ready : cursor.Ready) :
    (Behaviour.sepBy fuel ((token (literal ";") : Parser (signature N) String).behaviour call fuel)
      item).Ensures cursor (fun next _ => cursor.Leads next) False := by
  have first : item.Ensures cursor (fun next _ => cursor.Leads next) True := by
    refine (recognizes.sound ready).imp ?_ id
    rintro next value ⟨consumed, more, tree, unread, rfl, _, _⟩
    exact Cursor.leads_past ready.toValid unread
  apply first.sepBy
  · intro next value leads
    refine (leads_following recognizes fuel (leads.ready ready) [value]).imp ?_ id
    intro last _ further
    exact leads.trans further
  · intro _
    exact .refl ready.toValid

variable (reads : ∀ number, IsNumber number →
  (arithmetic.reader.read (String.ofList number)).isSome = true)

include reads

/-- An expression behind a semicolon is read to its end at least. -/
theorem reaches_nextItem (recognizes : Recognizes arithmetic (.level .sum) item)
    (reaches : Reaches (.level .sum) item) (ready : cursor.Ready) {space text more : List Char}
    {tree : Tree} (unread : cursor.rest = (";".toList ++ space ++ text) ++ more)
    (isSpace : IsSpace space) (derives : Derives (.level .sum) text tree) :
    (nextItem call fuel item).Ensures cursor
      (fun next _ => (cursor.past (";".toList ++ space ++ text)).Leads next ∧
        ((Phrase.level .sum).MayEnd more → next = cursor.past (";".toList ++ space ++ text)))
      False := by
  have opening : cursor.rest = ";".toList ++ (space ++ (text ++ more)) := by
    rw [unread]
    simp only [List.append_assoc]
  have skipped := longestRun_before isSpace derives nofun more
  apply (ensures_symbol_of_rest ready opening skipped).chain
  rintro middle _ rfl
  exact recognizes.reaches_after reads reaches nofun ready unread derives

/-- Further expressions are read to their end at least. -/
theorem reaches_following (recognizes : Recognizes arithmetic (.level .sum) item)
    (reaches : Reaches (.level .sum) item) (rounds : Nat) (ready : cursor.Ready)
    (values : List N) {trees : List Tree} {consumed more : List Char}
    (unread : cursor.rest = consumed ++ more) (following : Following consumed trees) :
    (Behaviour.repeatFrom (nextItem call fuel item) rounds values).Ensures cursor
      (fun next _ => (cursor.past consumed).Leads next) False := by
  induction rounds generalizing cursor values trees consumed with
  | zero =>
      intro session
      trivial
  | succ rounds inductionHypothesis =>
      cases following with
      | none => exact leads_following recognizes (rounds + 1) ready values
      | @next space text rest tree trees isSpace derives following =>
          have split : cursor.rest = (";".toList ++ space ++ text) ++ (rest ++ more) := by
            rw [unread]
            simp
          refine (reaches_nextItem reads recognizes reaches ready split isSpace
            derives).repeatFrom_succ ?_ False.elim
          rintro next value ⟨leads, ends⟩
          rw [← Cursor.past_past]
          apply reaches_rest (ready.past split) leads ends
          · exact fun some => following.mayEnd_append some more
          · exact fun other otherReady => leads_following recognizes rounds otherReady _
          · exact inductionHypothesis (ready.past split) _ (Cursor.rest_past split) following

/-- A program at the beginning of what is left to read is read to its end at least. -/
theorem reaches_program (recognizes : Recognizes arithmetic (.level .sum) (call .expression))
    (ready : cursor.Ready) {trees : List Tree} {consumed more : List Char}
    (unread : cursor.rest = consumed ++ more) (isProgram : IsProgram consumed trees) :
    ((program arithmetic).behaviour call fuel).Ensures cursor
      (fun next _ => (cursor.past consumed).Leads next) False := by
  have item : Recognizes arithmetic (.level .sum) ((expression arithmetic).behaviour call fuel) :=
    recognizes_expression recognizes
  have reaches : Reaches (.level .sum) ((expression arithmetic).behaviour call fuel) :=
    reaches_expression reads recognizes
  apply Behaviour.Ensures.map
  apply ensures_pair (ensures_whiteSpace ready)
  rintro middle _ rfl
  cases isProgram with
  | empty isSpace =>
      have run : longestRun .whiteSpace cursor.rest = consumed ++ longestRun .whiteSpace more := by
        rw [unread]
        exact longestRun_run_append isSpace more
      have split := longestRun_append_afterRun .whiteSpace cursor.rest
      have covers : (cursor.past consumed).Leads
          (cursor.past (longestRun .whiteSpace cursor.rest)) := by
        apply ready.leads_past_past split.symm
        rw [run]
        exact List.prefix_append consumed _
      refine (leads_items item (ready.past split.symm)).imp ?_ id
      intro last _ further
      exact covers.trans further
  | @expressions space text rest tree trees isSpace derives following =>
      have split : cursor.rest = (space ++ text) ++ (rest ++ more) := by
        rw [unread]
        simp only [List.append_assoc]
      have skipped := longestRun_before isSpace derives nofun (rest ++ more)
      rw [split, List.append_assoc space, skipped]
      apply (item.reaches_after reads reaches nofun ready split derives).sepBy
      · rintro next value ⟨leads, ends⟩
        rw [← Cursor.past_past]
        apply reaches_rest (ready.past split) leads ends
        · exact fun some => following.mayEnd_append some more
        · exact fun other otherReady => leads_following item fuel otherReady _
        · exact reaches_following reads item reaches fuel (ready.past split) _
            (Cursor.rest_past split) following
      · exact False.elim

end

/-- A beginning of an addressable text is addressable. -/
theorem length_ofList_lt {text : String}
    (addressable : (Cursor.ofText text).length < Cursor.indexBound) {first more : List Char}
    (split : text.toList = first ++ more) :
    (Cursor.ofText (String.ofList first)).length < Cursor.indexBound := by
  have fits : Medium.measure .text text.toList < Cursor.indexBound := addressable
  have whole := Medium.measure_append .text first more
  rw [← split] at whole
  change Medium.measure .text (String.ofList first).toList < Cursor.indexBound
  rw [String.toList_ofList]
  omega

/-- What the program reads from a text is a program at its beginning. -/
theorem exists_isProgram_of_success (arithmetic : Arithmetic N) {text : String}
    (addressable : (Cursor.ofText text).length < Cursor.indexBound) {cursor : Cursor .text}
    {values : List N} {session : Session Unit}
    (success : readProgram arithmetic text = .success cursor values session) :
    ∃ first more trees, text.toList = first ++ more ∧ IsProgram first trees ∧
      cursor = ⟨text.toList, Medium.measure .text first⟩ := by
  have ready : (Cursor.ofText text).Ready := Cursor.ready_start addressable
  have sound : Outcome.Ensures _ _ (readProgram arithmetic text) :=
    sound_program (recognizes_call arithmetic (Calculator.fuel text)) ready (.initial ())
  obtain ⟨first, more, trees, unread, rfl, isProgram, _⟩ := sound.of_success success
  rw [Cursor.rest_ofText] at unread
  refine ⟨first, more, trees, unread, isProgram, ?_⟩
  rw [Cursor.ofText, Cursor.past_start]

/-- Reading a program never fails. -/
theorem readProgram_ne_failure (arithmetic : Arithmetic N) {text : String}
    (addressable : (Cursor.ofText text).length < Cursor.indexBound) (reason : Failure)
    (session : Session Unit) : readProgram arithmetic text ≠ .failure reason session := by
  intro same
  have ready : (Cursor.ofText text).Ready := Cursor.ready_start addressable
  have never : Outcome.Ensures _ _ (readProgram arithmetic text) :=
    sound_program (recognizes_call arithmetic (Calculator.fuel text)) ready (.initial ())
  exact never.of_failure same

/-- A failed evaluation has read a program that does not go to the end of the text. -/
theorem evaluate_eq_failure (arithmetic : Arithmetic N) {text : String}
    (addressable : (Cursor.ofText text).length < Cursor.indexBound) {reason : Failure}
    {session : Session Unit} (failed : evaluate arithmetic text = .failure reason session) :
    ∃ cursor values, readProgram arithmetic text = .success cursor values session ∧
      cursor.isEnd = false ∧ reason = leftover cursor := by
  rw [evaluate] at failed
  rcases (readProgram_returned arithmetic addressable).success_or_failure with
    ⟨cursor, values, final, same⟩ | ⟨other, final, same⟩
  · rw [same] at failed
    simp only [Outcome.andThen, Outcome.resolve] at failed
    split at failed
    next => cases failed
    next notEnd =>
      cases failed
      exact ⟨cursor, values, same, by simpa using notEnd, rfl⟩
  · exact absurd same (readProgram_ne_failure arithmetic addressable other final)

/-- An accepted text is a program. -/
theorem exists_isProgram_of_evaluate (arithmetic : Arithmetic N) {text : String}
    (addressable : (Cursor.ofText text).length < Cursor.indexBound) {cursor : Cursor .text}
    {values : List N} {session : Session Unit}
    (success : evaluate arithmetic text = .success cursor values session) :
    ∃ trees, IsProgram text.toList trees := by
  obtain ⟨_, _, read, isEnd⟩ :=
    (evaluate_eq_success_iff arithmetic text values).mp ⟨cursor, session, success⟩
  obtain ⟨trees, isProgram, _⟩ :=
    exists_isProgram_of_readProgram arithmetic addressable read isEnd
  exact ⟨trees, isProgram⟩

/-- Of all beginnings of the text, the longest one that is accepted ends at this position. -/
structure LongestAccepted (arithmetic : Arithmetic N) (text : String) (position : Nat) : Prop where
  accepts : ∃ first more, text.toList = first ++ more ∧ Medium.measure .text first = position ∧
    ∃ cursor values session,
      evaluate arithmetic (String.ofList first) = .success cursor values session
  refuses : ∀ longer others, text.toList = longer ++ others →
    position < Medium.measure .text longer →
      ∃ reason session, evaluate arithmetic (String.ofList longer) = .failure reason session

section

variable (reads : ∀ number, IsNumber number →
  (arithmetic.reader.read (String.ofList number)).isSome = true)

include reads

/-- Every program is accepted. -/
theorem evaluate_of_isProgram {text : List Char}
    (addressable : (Cursor.ofText (String.ofList text)).length < Cursor.indexBound)
    {trees : List Tree} (isProgram : IsProgram text trees) :
    ∃ cursor values session,
      evaluate arithmetic (String.ofList text) = .success cursor values session := by
  obtain ⟨values, known⟩ := isProgram.exists_values reads
  rw [← String.toList_ofList (l := text)] at isProgram
  have read := readProgram_of_isProgram arithmetic addressable isProgram known
  obtain ⟨cursor, session, success⟩ := (evaluate_eq_success_iff arithmetic _ values).mpr read
  exact ⟨cursor, values, session, success⟩

/-- The program that is read is at least as long as any program at the beginning of the text. -/
theorem measure_le_of_readProgram {text : String}
    (addressable : (Cursor.ofText text).length < Cursor.indexBound) {cursor : Cursor .text}
    {values : List N} {session : Session Unit}
    (success : readProgram arithmetic text = .success cursor values session)
    {longer others : List Char} (split : text.toList = longer ++ others) {trees : List Tree}
    (isProgram : IsProgram longer trees) : Medium.measure .text longer ≤ cursor.index := by
  have ready : (Cursor.ofText text).Ready := Cursor.ready_start addressable
  have unread : (Cursor.ofText text).rest = longer ++ others := by
    rw [Cursor.rest_ofText, split]
  have reached : Outcome.Ensures _ _ (readProgram arithmetic text) :=
    reaches_program reads (recognizes_call arithmetic (Calculator.fuel text)) ready unread isProgram
      (.initial ())
  have forward := (reached.of_success success).forward
  rw [Cursor.ofText, Cursor.past_start] at forward
  exact forward

/-- The parse of a program ends where the longest accepted beginning of the text does. -/
theorem longestAccepted_of_readProgram {text : String}
    (addressable : (Cursor.ofText text).length < Cursor.indexBound) {cursor : Cursor .text}
    {values : List N} {session : Session Unit}
    (success : readProgram arithmetic text = .success cursor values session) :
    LongestAccepted arithmetic text cursor.index where
  accepts := by
    obtain ⟨first, more, trees, split, isProgram, rfl⟩ :=
      exists_isProgram_of_success arithmetic addressable success
    have fits := length_ofList_lt addressable split
    exact ⟨first, more, split, rfl, evaluate_of_isProgram reads fits isProgram⟩
  refuses := by
    intro longer others split further
    have fits := length_ofList_lt addressable split
    have returned := evaluate_returned (readProgram_returned arithmetic fits)
    rcases returned.success_or_failure with ⟨next, found, final, same⟩ | failed
    · -- The parse of the whole text would have gone as far as this program.
      obtain ⟨trees, isProgram⟩ := exists_isProgram_of_evaluate arithmetic fits same
      rw [String.toList_ofList] at isProgram
      have reached := measure_le_of_readProgram reads addressable success split isProgram
      omega
    · exact failed

end

/-- The calculator fails only because text is left over behind a program that was read. The failure
lies at the end of this program, which is the longest beginning of the text that is accepted. -/
theorem evaluate_fails_behind_longest_program {text : String}
    (addressable : (Cursor.ofText text).length < Cursor.indexBound) {reason : Failure}
    {session : Session Unit} (failed : evaluate floatArithmetic text = .failure reason session) :
    ∃ cursor values message,
      readProgram floatArithmetic text = .success cursor values session ∧
        reason = .newAt (.custom "end of input") message cursor.index ∧
          cursor.index < (Cursor.ofText text).length ∧
            LongestAccepted floatArithmetic text cursor.index := by
  obtain ⟨cursor, values, success, notEnd, rfl⟩ :=
    evaluate_eq_failure floatArithmetic addressable failed
  have longest : LongestAccepted floatArithmetic text cursor.index :=
    longestAccepted_of_readProgram (fun _ isNumber => isSome_readFloat isNumber) addressable success
  refine ⟨cursor, values, _, success, rfl, ?_, longest⟩
  obtain ⟨first, more, trees, split, isProgram, rfl⟩ :=
    exists_isProgram_of_success floatArithmetic addressable success
  rw [Cursor.isEnd, decide_eq_false_iff_not] at notEnd
  exact Nat.lt_of_not_le notEnd

/-- An operator without an operand is left over behind the first byte. -/
theorem evaluate_dangling_operator_fails :
    (Cursor.ofText "1+").length < Cursor.indexBound ∧
      ∃ reason session, evaluate floatArithmetic "1+" = .failure reason session ∧
        reason.position = some 1 ∧ LongestAccepted floatArithmetic "1+" 1 := by
  have addressable : (Cursor.ofText "1+").length < Cursor.indexBound := by decide
  have failure : ∃ reason session, evaluate floatArithmetic "1+" = .failure reason session ∧
      reason.position = some 1 := ⟨_, _, by rfl, rfl⟩
  obtain ⟨reason, session, failed, place⟩ := failure
  obtain ⟨cursor, values, message, _, rfl, _, longest⟩ :=
    evaluate_fails_behind_longest_program addressable failed
  have one : cursor.index = 1 := Option.some.inj place
  rw [one] at longest
  exact ⟨addressable, _, session, failed, place, longest⟩

end ParserCombinators.Calculator
