/-
This file shows how reading tokens divides a text. Each token and each space between tokens is as
long as possible, and reading stops where no space with a token behind it follows.
-/

import ParserCombinators.Grammar.Tokens
import ParserCombinators.Proofs.GrammarTermination
import ParserCombinators.Proofs.Pattern.Run
import ParserCombinators.Proofs.Words

namespace ParserCombinators.Tokens

open ParserCombinators.Parser ParserCombinators.Pattern ParserCombinators.Text

/-- Numbers are integers of 64 bits with a sign. -/
def largestNumber : Int := Int.pow 2 63 - 1

/-- Numbers consist of digits and words of letters. -/
def Token.characters : Token → CharacterClass
  | .number _ => .asciiDigit
  | .word _ => .asciiLower

/-- Digits spell their value, if it is not too large. Letters spell themselves. -/
def Token.SpelledBy : Token → List Char → Prop
  | .number value, spelling => value = digitsValue spelling ∧ value ≤ largestNumber
  | .word text, spelling => text = String.ofList spelling

/-- The token stands in a text with more behind it. -/
structure Token.Stands (token : Token) (spelling more : List Char) : Prop where
  maximal : MaximalRun token.characters spelling more
  spelled : token.SpelledBy spelling

/-- A piece of a text is a token with the white space in front of it. -/
structure Piece where
  space : List Char
  spelling : List Char
  token : Token

def Piece.written (piece : Piece) : List Char := piece.space ++ piece.spelling

/-- No white space stands in front of the first token. -/
def leading : Vocabulary Char Piece where
  write := Piece.written
  allows piece more := piece.space = [] ∧ piece.token.Stands piece.spelling more

/-- White space stands in front of every other token. -/
def following : Vocabulary Char Piece where
  write := Piece.written
  allows piece more := MaximalRun .whiteSpace piece.space (piece.spelling ++ more) ∧
    piece.token.Stands piece.spelling more

/-- The text consists of these pieces and of a rest that does not continue them. -/
inductive Divides : List Char → List Piece → List Char → Prop
  | none {text : List Char} (noToken : ∀ piece more, ¬ leading.Begins text piece more) :
      Divides text [] text
  | some {text more rest : List Char} {piece : Piece} {others : List Piece}
      (begins : leading.Begins text piece more) (splits : following.Splits more others rest) :
      Divides text (piece :: others) rest

/-- The words of this vocabulary are the maximal runs of a class. -/
def runs (characters : CharacterClass) : Vocabulary Char (List Char) :=
  ⟨id, MaximalRun characters⟩

section

variable {token token' : Token} {spelling spelling' more more' : List Char}

/-- No character is both a digit and a letter. -/
theorem not_digit_and_letter (character : Char) :
    ¬ (CharacterClass.asciiDigit.contains character = true ∧
      CharacterClass.asciiLower.contains character = true) := by
  rw [CharacterClass.asciiDigit, CharacterClass.asciiLower, CharacterClass.contains_range,
    CharacterClass.contains_range]
  rintro ⟨⟨_, atMost⟩, atLeast, _⟩
  exact absurd (Char.le_trans atLeast atMost) (by decide)

/-- No token holds white space. -/
theorem Token.not_whiteSpace (token : Token) {character : Char}
    (belongs : token.characters.contains character = true) :
    CharacterClass.whiteSpace.contains character = false := by
  have visible : 0x20 < character.toNat ∧ character.toNat < 0x80 := by
    cases token with
    | number value =>
        obtain ⟨atLeast, atMost⟩ := (CharacterClass.contains_range '0' '9' character).mp belongs
        exact ⟨Nat.lt_of_lt_of_le (by decide) atLeast, Nat.lt_of_le_of_lt atMost (by decide)⟩
    | word text =>
        obtain ⟨atLeast, atMost⟩ := (CharacterClass.contains_range 'a' 'z' character).mp belongs
        exact ⟨Nat.lt_of_lt_of_le (by decide) atLeast, Nat.lt_of_le_of_lt atMost (by decide)⟩
  rw [CharacterClass.contains_whiteSpace, isWhiteSpace, Bool.eq_false_iff, ne_eq,
    CodeRanges.covers_iff]
  simp only [whiteSpaceRanges, List.mem_cons, List.not_mem_nil, or_false, exists_eq_or_imp,
    exists_eq_left]
  omega

/-- A text begins with at most one token. -/
theorem Token.Stands.unique (stands : token.Stands spelling more)
    (stands' : token'.Stands spelling' more') (same : spelling ++ more = spelling' ++ more') :
    spelling = spelling' ∧ token = token' := by
  obtain ⟨first, others, rfl⟩ := List.exists_cons_of_ne_nil stands.maximal.nonempty
  obtain ⟨first', others', rfl⟩ := List.exists_cons_of_ne_nil stands'.maximal.nonempty
  obtain rfl : first = first' := (List.cons.inj same).1
  have belongs := stands.maximal.inside first (List.mem_cons_self ..)
  have belongs' := stands'.maximal.inside first (List.mem_cons_self ..)
  cases token with
  | number value =>
      cases token' with
      | number value' =>
          have equal := stands.maximal.unique stands'.maximal same
          refine ⟨equal, congrArg Token.number ?_⟩
          rw [stands.spelled.1, equal, ← stands'.spelled.1]
      | word text => exact absurd ⟨belongs, belongs'⟩ (not_digit_and_letter first)
  | word text =>
      cases token' with
      | number value => exact absurd ⟨belongs', belongs⟩ (not_digit_and_letter first)
      | word text' =>
          have equal := stands.maximal.unique stands'.maximal same
          refine ⟨equal, congrArg Token.word ?_⟩
          rw [show text = String.ofList _ from stands.spelled, equal]
          exact stands'.spelled.symm

end

theorem Piece.written_ne_nil {piece : Piece} {more : List Char}
    (stands : piece.token.Stands piece.spelling more) : piece.written ≠ [] := fun nothing =>
  stands.maximal.nonempty (List.append_eq_nil_iff.mp nothing).2

theorem leading_unambiguous : leading.Unambiguous where
  unique := by
    rintro text rest rest' ⟨space, spelling, token⟩ ⟨space', spelling', token'⟩
      ⟨written, rfl, stands⟩ ⟨written', rfl, stands'⟩
    obtain ⟨rfl, rfl⟩ := stands.unique stands' (written.symm.trans written')
    rfl
  nonempty begins := Piece.written_ne_nil begins.allowed.2

theorem following_unambiguous : following.Unambiguous where
  unique := by
    rintro text rest rest' ⟨space, spelling, token⟩ ⟨space', spelling', token'⟩
      ⟨written, spaced, stands⟩ ⟨written', spaced', stands'⟩
    have same : space ++ (spelling ++ rest) = space' ++ (spelling' ++ rest') := by
      rw [← List.append_assoc, ← List.append_assoc]
      exact written.symm.trans written'
    obtain rfl := spaced.unique spaced' same
    obtain ⟨rfl, rfl⟩ := stands.unique stands' (List.append_cancel_left same)
    rfl
  nonempty begins := Piece.written_ne_nil begins.allowed.2

/-- Every text is divided in one way. -/
theorem existsUnique_divides (text : List Char) :
    ∃! parts : List Piece × List Char, Divides text parts.1 parts.2 := by
  by_cases begun : ∃ piece more, leading.Begins text piece more
  · obtain ⟨piece, more, begins⟩ := begun
    obtain ⟨others, rest, splits⟩ := following_unambiguous.exists_splits more
    refine ⟨(piece :: others, rest), .some begins splits, ?_⟩
    rintro ⟨pieces, rest'⟩ divides
    cases divides with
    | none noToken => exact absurd begins (noToken piece more)
    | some begins' splits' =>
        obtain ⟨rfl, rfl⟩ := leading_unambiguous.rest_eq begins begins'
        obtain ⟨rfl, rfl⟩ := splits.unique following_unambiguous splits'
        rfl
  · refine ⟨([], text), .none fun piece more begins => begun ⟨piece, more, begins⟩, ?_⟩
    rintro ⟨pieces, rest⟩ divides
    cases divides with
    | none noToken => rfl
    | some begins splits => exact absurd ⟨_, _, begins⟩ begun

/-- The pieces and the rest make up the whole text. -/
theorem Divides.written {text rest : List Char} {pieces : List Piece}
    (divides : Divides text pieces rest) : text = pieces.flatMap Piece.written ++ rest := by
  cases divides with
  | none noToken => rfl
  | some begins splits =>
      rw [begins.written, splits.written, List.flatMap_cons, List.append_assoc]
      rfl

/-- Letters are found as a whole. -/
theorem finds_word : wordPattern.Finds (someRun .asciiLower) := finds_repetition _ _

/-- A pattern that repeats a class reads a maximal run. -/
theorem reads_runs {pattern : Pattern} {characters : CharacterClass}
    (finds : pattern.Finds (someRun characters)) :
    (Behaviour.leaf (.pattern pattern) : Behaviour .text Unit String).ReadsWord (runs characters)
      String.ofList := by
  intro cursor ready
  cases found : someRun characters cursor.rest with
  | none =>
      obtain ⟨reason, read⟩ := finds.read_of_none ready found
      refine .leaf_of_failure read fun run more begins => ?_
      rw [someRun_eq_some_iff.mpr ⟨more, begins.written, begins.allowed⟩] at found
      cases found
  | some run =>
      obtain ⟨more, written, maximal⟩ := someRun_eq_some_iff.mp found
      exact .leaf_of_success (finds.read_of_some ready found)
        ⟨run, more, ⟨written, maximal⟩, rfl, rfl⟩

/-- A run of digits is read as a number unless its value is too large. -/
theorem read_digits_eq_some_iff {spelling more : List Char} {value : Int}
    (maximal : MaximalRun .asciiDigit spelling more) :
    (Reader.signed "i64" 64).read (String.ofList spelling) = some value ↔
      (Token.number value).SpelledBy spelling := by
  have areDigits : ∀ character ∈ spelling, isAsciiDigit character = true := by
    intro character member
    rw [← CharacterClass.contains_asciiDigit]
    exact maximal.inside character member
  have digits : readDigits spelling = some (digitsValue spelling) := by
    rw [readDigits, List.isEmpty_eq_false_iff.mpr maximal.nonempty,
      List.all_eq_true.mpr areDigits]
    rfl
  simp only [Reader.signed, Reader.integer, String.toList_ofList]
  -- A run of digits begins with no sign.
  split
  next others => exact absurd (areDigits '+' (List.mem_cons_self ..)) (by decide)
  next others => exact absurd (areDigits '-' (List.mem_cons_self ..)) (by decide)
  next =>
    rw [digits, Option.map_some, Option.filter_eq_some_iff, Option.some.injEq, Bool.and_eq_true,
      decide_eq_true_iff, decide_eq_true_iff]
    constructor
    · rintro ⟨rfl, _, atMost⟩
      exact ⟨rfl, atMost⟩
    · rintro ⟨rfl, atMost⟩
      exact ⟨rfl, Int.le_trans (by decide) (Int.natCast_nonneg _), atMost⟩

section

variable {call : (rule : Empty) → Behaviour .text Unit Unit} {fuel : Nat}

/-- The number that stands at the cursor is read. -/
theorem ensures_number {cursor : Cursor .text} (ready : cursor.Ready) :
    ((map Token.number (parseAs (Reader.signed "i64" 64) digits)).behaviour call fuel).Ensures
      cursor
      (fun next found => ∃ spelling more, cursor.rest = spelling ++ more ∧
        found.Stands spelling more ∧ next = cursor.past spelling)
      (∀ value spelling more, cursor.rest = spelling ++ more →
        ¬ (Token.number value).Stands spelling more) := by
  apply Behaviour.Ensures.map
  have run := reads_runs finds_digits cursor ready
  refine (run.imp (fun _ _ => id) ?_).parseAs ?_ ?_
  · intro noRun value spelling more written stands
    exact noRun spelling more ⟨written, stands.maximal⟩
  · rintro next _ value ⟨run, more, ⟨written, maximal⟩, rfl, rfl⟩ read
    exact ⟨run, more, written, ⟨maximal, (read_digits_eq_some_iff maximal).mp read⟩, rfl⟩
  · rintro next _ ⟨run, more, ⟨written, maximal⟩, rfl, rfl⟩ refused value spelling more' written'
      stands
    obtain rfl := maximal.unique stands.maximal (written.symm.trans written')
    rw [(read_digits_eq_some_iff maximal).mpr stands.spelled] at refused
    cases refused

/-- The word that stands at the cursor is read. -/
theorem ensures_word {cursor : Cursor .text} (ready : cursor.Ready) :
    ((map Token.word (leaf (.pattern wordPattern)) : Parser signature Token).behaviour call
      fuel).Ensures cursor
      (fun next found => ∃ spelling more, cursor.rest = spelling ++ more ∧
        found.Stands spelling more ∧ next = cursor.past spelling)
      (∀ text spelling more, cursor.rest = spelling ++ more →
        ¬ (Token.word text).Stands spelling more) := by
  apply Behaviour.Ensures.map
  refine (reads_runs finds_word cursor ready).imp ?_ ?_
  · rintro next _ ⟨run, more, ⟨written, maximal⟩, rfl, rfl⟩
    exact ⟨run, more, written, ⟨maximal, rfl⟩, rfl⟩
  · intro noRun text spelling more written stands
    exact noRun spelling more ⟨written, stands.maximal⟩

/-- The token that stands at the cursor is read. -/
theorem reads_token : (token.behaviour call fuel).ReadsWord leading Piece.token := by
  intro cursor ready
  have read : (token.behaviour call fuel).Ensures cursor
      (fun next found => ∃ spelling more, cursor.rest = spelling ++ more ∧
        found.Stands spelling more ∧ next = cursor.past spelling)
      (∀ token spelling more, cursor.rest = spelling ++ more →
        ¬ Token.Stands token spelling more) := by
    apply Parser.ensures_choiceOf_two (ensures_number ready)
    intro noNumber
    refine (ensures_word ready).imp (fun _ _ => id) ?_
    intro noWord token
    cases token with
    | number value => exact noNumber value
    | word text => exact noWord text
  refine read.imp ?_ ?_
  · rintro next found ⟨spelling, more, written, stands, rfl⟩
    exact ⟨⟨[], spelling, found⟩, more, ⟨written, rfl, stands⟩, rfl, rfl⟩
  · rintro noToken ⟨space, spelling, token⟩ more ⟨written, rfl, stands⟩
    exact noToken token spelling more written stands

/-- So is the token behind white space. -/
theorem reads_separated :
    (Behaviour.separated (whiteSpace.behaviour call fuel) (token.behaviour call fuel)).ReadsWord
      following Piece.token := by
  intro cursor ready
  have spaced : (whiteSpace.behaviour call fuel).Ensures cursor
      (fun next _ => ∃ space more, cursor.rest = space ++ more ∧
        MaximalRun .whiteSpace space more ∧ next = cursor.past space)
      (∀ piece more, ¬ following.Begins cursor.rest piece more) := by
    refine (reads_runs finds_whiteSpace cursor ready).imp ?_ ?_
    · rintro next _ ⟨space, more, ⟨written, maximal⟩, rfl, rfl⟩
      exact ⟨space, more, written, maximal, rfl⟩
    · rintro noRun piece more ⟨written, maximal, stands⟩
      exact noRun piece.space _ ⟨written.trans (List.append_assoc ..), maximal⟩
  apply spaced.chain
  rintro middle _ ⟨space, behind, written, maximal, rfl⟩
  have unread := Cursor.rest_past written
  refine (reads_token _ (ready.past written)).imp ?_ ?_
  · rintro next _ ⟨piece, more, ⟨written', nothing, stands⟩, rfl, rfl⟩
    have same : behind = piece.spelling ++ more := by
      rw [← unread, written', ← List.nil_append piece.spelling, ← nothing]
      rfl
    refine ⟨⟨space, piece.spelling, piece.token⟩, more, ⟨?_, same ▸ maximal, stands⟩, ?_, rfl⟩
    · rw [written, same, ← List.append_assoc]
      rfl
    · rw [Cursor.past_past, ← List.nil_append piece.spelling, ← nothing]
      rfl
  · rintro noToken ⟨space', spelling, found⟩ more ⟨written', maximal', stands⟩
    have same : space ++ behind = space' ++ (spelling ++ more) := by
      rw [← written, ← List.append_assoc]
      exact written'
    obtain rfl := maximal.unique maximal' same
    refine noToken ⟨[], spelling, found⟩ more ⟨?_, rfl, stands⟩
    rw [unread, List.append_cancel_left same]
    rfl

/-- Reading tokens divides the text behind the cursor. -/
theorem ensures_tokens {cursor : Cursor .text} (ready : cursor.Ready) :
    (tokens.behaviour call fuel).Ensures cursor
      (fun next found => ∃ pieces rest, Divides cursor.rest pieces rest ∧
        next = cursor.past (pieces.flatMap Piece.written) ∧ found = pieces.map Piece.token)
      False := by
  apply (reads_token cursor ready).sepBy
  · rintro next _ ⟨piece, more, begins, rfl, rfl⟩
    refine (reads_separated.repeatFrom fuel (ready.past begins.written) [piece.token]).imp ?_ id
    rintro last found ⟨others, rest, splits, rfl, rfl⟩
    rw [Cursor.rest_past begins.written] at splits
    exact ⟨piece :: others, rest, .some begins splits, Cursor.past_past .., rfl⟩
  · intro noToken
    exact ⟨[], cursor.rest, .none noToken, rfl, rfl⟩

end

/-- Every round reads some white space. -/
theorem outcome_tokens_finishes {fuel limit : Nat} (enough : limit < fuel) :
    (grammar.outcome fuel tokens).Finishes (limit + 1) := by
  have moves : ¬ whiteSpace.Nullable grammar := fun nullable =>
    finds_whiteSpace.not_matchesEmpty someRun_ne_some_nil (nullable_iff.mp nullable)
  have lawful : tokens.Lawful := by
    simp [tokens, whiteSpace, token, digits, choiceOf, Parser.Lawful, Parser.Everywhere,
      Parser.FunctionKeepsLaw, Fin.forall_fin_succ]
  have tokenProductive : token.Productive grammar :=
    productive_choiceOf.mpr (List.forall_mem_cons.mpr
      ⟨⟨trivial, trivial, trivial⟩, List.forall_mem_singleton.mpr ⟨trivial, trivial⟩⟩)
  have productive : tokens.Productive grammar :=
    ⟨fun both => moves both.1, trivial, tokenProductive⟩
  have rulesLawful : grammar.Lawful := fun rule : Empty => rule.elim
  have rulesProductive : ∀ rule, (grammar rule).Productive grammar := fun rule : Empty => rule.elim
  have noCalls : ∀ rule called, ¬ grammar.CallsLeft rule called := fun rule : Empty => rule.elim
  exact Grammar.outcome_finishes_of_noCalls rulesLawful rulesProductive noCalls lawful productive
    (fun rule : Empty => rule.elim) enough

/-- The text is divided as far as it can be. -/
theorem readTokens_of_divides {text : String} {pieces : List Piece} {rest : List Char}
    (addressable : (Cursor.ofText text).length < Cursor.indexBound)
    (divides : Divides text.toList pieces rest) :
    ∃ final, readTokens text =
      .success ⟨text.toList, Medium.measure .text (pieces.flatMap Piece.written)⟩
        (pieces.map Piece.token) final := by
  have ready : (Cursor.ofText text).Ready := Cursor.ready_start addressable
  have finished := outcome_tokens_finishes (Nat.lt_succ_self text.length) (Cursor.ofText text)
    ready.toValid (by rw [Cursor.rest_ofText]; exact Nat.lt_succ_self _) (.initial ())
  obtain ⟨next, found, final, success, others, more, otherDivides, rfl, rfl⟩ :=
    (ensures_tokens ready).exists_success finished
  rw [Cursor.rest_ofText] at otherDivides
  obtain ⟨rfl, rfl⟩ := Prod.mk.inj ((existsUnique_divides text.toList).unique otherDivides divides)
  rw [Cursor.ofText, Cursor.past_start] at success
  exact ⟨final, success⟩

/-- A number is printed in decimal, and a word is printed as it is. -/
def Token.print : Token → List Char
  | .number value => (toString value).toList
  | .word text => text.toList

/-- Numbers have no sign and are not too large. Words have letters only. -/
def Token.Printable : Token → Prop
  | .number value => 0 ≤ value ∧ value ≤ largestNumber
  | .word text => text ≠ "" ∧ ∀ character ∈ text.toList, isAsciiLower character = true

instance : DecidablePred Token.Printable
  | .number value => inferInstanceAs (Decidable (0 ≤ value ∧ value ≤ largestNumber))
  | .word text => decidable_of_iff (text ≠ "" ∧ text.toList.all isAsciiLower = true)
      (and_congr_right' List.all_eq_true)

/-- The tokens are printed with some white space between each two of them. -/
inductive Printed : List Token → List Char → Prop
  | none : Printed [] []
  | single (token : Token) : Printed [token] token.print
  | next (token : Token) {space : List Char} {second : Token} {others : List Token}
      {text : List Char} (nonempty : space ≠ [])
      (blank : ∀ character ∈ space, isWhiteSpace character = true)
      (printed : Printed (second :: others) text) :
      Printed (token :: second :: others) (token.print ++ space ++ text)

theorem digitsValue_toDigits (value : Nat) : digitsValue (Nat.toDigits 10 value) = value :=
  Nat.ofDigitChars_toDigits (by decide) (by decide)

/-- A printed token is read as that token wherever it can end. -/
theorem Token.Printable.stands {token : Token} (printable : token.Printable) {more : List Char}
    (stops : ∀ character ∈ more.head?, token.characters.contains character = false) :
    token.Stands token.print more := by
  cases token with
  | number value =>
      obtain ⟨nonnegative, atMost⟩ := printable
      obtain ⟨number, rfl⟩ := Int.eq_ofNat_of_zero_le nonnegative
      have printed : (Token.number number).print = Nat.toDigits 10 number := Nat.toList_repr
      rw [printed]
      refine ⟨⟨Nat.toDigits_ne_nil, ?_, stops⟩, ?_, atMost⟩
      · intro character member
        rw [characters, CharacterClass.contains_asciiDigit]
        exact Nat.isDigit_of_mem_toDigits (by decide) (by decide) member
      · rw [digitsValue_toDigits]
  | word text =>
      obtain ⟨nonempty, letters⟩ := printable
      refine ⟨⟨?_, ?_, stops⟩, String.ofList_toList.symm⟩
      · exact fun nothing => nonempty (String.toList_eq_nil_iff.mp nothing)
      · intro character member
        rw [characters, CharacterClass.contains_asciiLower]
        exact letters character member

/-- Printed tokens are all pieces of their text. -/
theorem Printed.exists_divides {printed : List Token} {text : List Char}
    (isPrinted : Printed printed text) (printable : ∀ token ∈ printed, token.Printable) :
    ∃ pieces, Divides text pieces [] ∧ pieces.map Piece.token = printed := by
  induction isPrinted with
  | none => exact ⟨[], .none leading_unambiguous.not_begins_nil, rfl⟩
  | single token =>
      have stands : token.Stands token.print [] :=
        (List.forall_mem_singleton.mp printable).stands nofun
      have begins : leading.Begins token.print ⟨[], token.print, token⟩ [] :=
        ⟨(List.append_nil _).symm, rfl, stands⟩
      exact ⟨[_], .some begins (.none following_unambiguous.not_begins_nil), rfl⟩
  | @next token space second others text nonempty blank isPrinted inductionHypothesis =>
      obtain ⟨printableFirst, printableOthers⟩ := List.forall_mem_cons.mp printable
      obtain ⟨pieces, divides, same⟩ := inductionHypothesis printableOthers
      cases divides with
      | none noToken => cases same
      | @some more _ piece pieces begins splits =>
          obtain ⟨written, nothing, secondStands⟩ := begins
          have unread : text = piece.spelling ++ more := by
            rw [written, ← List.nil_append piece.spelling, ← nothing]
            rfl
          have spaced : MaximalRun .whiteSpace space (piece.spelling ++ more) :=
            ⟨nonempty, blank, fun character isHead =>
              piece.token.not_whiteSpace (secondStands.maximal.contains_head isHead)⟩
          have stands : token.Stands token.print (space ++ text) := by
            apply printableFirst.stands
            intro character isHead
            rw [unread] at isHead
            refine Bool.eq_false_iff.mpr fun belongs => ?_
            have isBlank := spaced.contains_head isHead
            rw [token.not_whiteSpace belongs] at isBlank
            cases isBlank
          have continues : following.Begins (space ++ text) ⟨space, piece.spelling, piece.token⟩
              more := ⟨by rw [unread, ← List.append_assoc]; rfl, spaced, secondStands⟩
          have begun : leading.Begins (token.print ++ space ++ text) ⟨[], token.print, token⟩
              (space ++ text) := ⟨List.append_assoc .., rfl, stands⟩
          exact ⟨_, .some begun (.next continues splits), congrArg (token :: ·) same⟩

/-- Reading tokens ends behind the pieces of the text. -/
theorem readTokens_divides_text {text : String}
    (addressable : (Cursor.ofText text).length < Cursor.indexBound) :
    (∃! parts : List Piece × List Char, Divides text.toList parts.1 parts.2) ∧
      (∀ pieces rest, Divides text.toList pieces rest →
        text.toList = pieces.flatMap Piece.written ++ rest ∧
          ∃ final, readTokens text =
            .success ⟨text.toList, Medium.measure .text (pieces.flatMap Piece.written)⟩
              (pieces.map Piece.token) final) ∧
      ∀ printed, Printed printed text.toList → (∀ token ∈ printed, token.Printable) →
        ∃ final, readTokens text =
          .success ⟨text.toList, (Cursor.ofText text).length⟩ printed final := by
  refine ⟨existsUnique_divides text.toList, ?_, ?_⟩
  · intro pieces rest divides
    exact ⟨divides.written, readTokens_of_divides addressable divides⟩
  · intro printed isPrinted printable
    obtain ⟨pieces, divides, rfl⟩ := isPrinted.exists_divides printable
    obtain ⟨final, success⟩ := readTokens_of_divides addressable divides
    rw [← List.append_nil (pieces.flatMap Piece.written), ← divides.written] at success
    exact ⟨final, success⟩

/-- A number between two words is read back. -/
theorem readTokens_divides_text_printed :
    (Cursor.ofText "let 42 x").length < Cursor.indexBound ∧
      Printed [.word "let", .number 42, .word "x"] "let 42 x".toList ∧
        ∃ final, readTokens "let 42 x" = .success ⟨"let 42 x".toList, 8⟩
          [.word "let", .number 42, .word "x"] final := by
  have addressable : (Cursor.ofText "let 42 x").length < Cursor.indexBound := by decide
  have blank : ∀ character ∈ [' '], isWhiteSpace character = true :=
    List.forall_mem_singleton.mpr rfl
  have same : "let 42 x".toList = "let".toList ++ [' '] ++ ((Token.number 42).print ++ [' '] ++
      "x".toList) := by decide
  have isPrinted : Printed [.word "let", .number 42, .word "x"] "let 42 x".toList := by
    rw [same]
    exact .next _ (List.cons_ne_nil _ _) blank
      (.next _ (List.cons_ne_nil _ _) blank (.single (.word "x")))
  have printable : ∀ token ∈ [.word "let", .number 42, .word "x"], Token.Printable token := by
    decide
  exact ⟨addressable, isPrinted,
    (readTokens_divides_text addressable).2.2 _ isPrinted printable⟩

end ParserCombinators.Tokens
