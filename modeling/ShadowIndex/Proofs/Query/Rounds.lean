import ShadowIndex.Proofs.Query.RoundTrip
import ShadowIndex.Proofs.Text.Words

/-!
Contract: the scan of a text, round by round.

Owns:
- `Text.withoutBlanks`, and what neither collapsing nor trimming changes of it;
- `Token.written`, the text a token stands for: the written form of its term, or a pair of
  quotes for a phrase that is dropped;
- `Token.Round` and `Token.rounds`, what the scan takes from a text in each of its rounds;
- a text and its tokens hold the same characters in the same order, blanks aside
  (`tokenize_lossless`).

Does not own: which terms a token can hold.
-/

set_option autoImplicit false

namespace ShadowIndex

namespace Text

/-! ## Texts without their blanks -/

def withoutBlanks (text : List Char) : List Char := text.filter fun c => !isBlank c

@[simp] theorem withoutBlanks_nil : withoutBlanks [] = [] := rfl

@[simp] theorem withoutBlanks_append (left right : List Char) :
    withoutBlanks (left ++ right) = withoutBlanks left ++ withoutBlanks right :=
  List.filter_append left right

theorem withoutBlanks_blank {c : Char} (rest : List Char) (blank : isBlank c = true) :
    withoutBlanks (c :: rest) = withoutBlanks rest := by
  simp [withoutBlanks, blank]

theorem withoutBlanks_solid {c : Char} (rest : List Char) (solid : isBlank c = false) :
    withoutBlanks (c :: rest) = c :: withoutBlanks rest := by
  simp [withoutBlanks, solid]

theorem withoutBlanks_collapse (text : List Char) :
    withoutBlanks (collapse text) = withoutBlanks text := by
  induction text with
  | nil => rfl
  | cons c rest inductionHypothesis =>
      by_cases blank : isBlank c = true
      · rw [collapse_blank _ blank, withoutBlanks_blank _ blank, ← inductionHypothesis]
        split
        · rfl
        · exact withoutBlanks_blank _ isBlank_space
      · have solid : isBlank c = false := by simpa using blank
        rw [collapse_solid _ solid, withoutBlanks_solid _ solid, withoutBlanks_solid _ solid,
          inductionHypothesis]

theorem withoutBlanks_trimStart (text : List Char) :
    withoutBlanks (trimStart text) = withoutBlanks text := by
  induction text with
  | nil => rfl
  | cons c rest inductionHypothesis =>
      by_cases blank : isBlank c = true
      · rw [trimStart_blank _ blank, withoutBlanks_blank _ blank, inductionHypothesis]
      · rw [trimStart_eq_self (by simpa using blank)]

theorem withoutBlanks_trimEnd (text : List Char) :
    withoutBlanks (trimEnd text) = withoutBlanks text := by
  have reversed := withoutBlanks_trimStart text.reverse
  simp only [withoutBlanks, trimStart] at reversed
  rw [trimEnd, withoutBlanks, List.filter_reverse, reversed, List.filter_reverse,
    List.reverse_reverse, withoutBlanks]

theorem withoutBlanks_normalizeChars (text : List Char) :
    withoutBlanks (normalizeChars [text]) = withoutBlanks text := by
  rw [normalizeChars_singleton, withoutBlanks_collapse, trim, withoutBlanks_trimEnd,
    withoutBlanks_trimStart]

theorem withoutBlanks_eq_nil_iff (text : List Char) :
    withoutBlanks text = [] ↔ ∀ c ∈ text, isBlank c = true := by
  simp [withoutBlanks]

/-- Nothing is left of a text in normal form exactly if there was nothing but blanks. -/
theorem normalizeChars_eq_nil_iff (text : List Char) :
    normalizeChars [text] = [] ↔ ∀ c ∈ text, isBlank c = true := by
  rw [← withoutBlanks_eq_nil_iff, ← withoutBlanks_normalizeChars]
  constructor
  · intro empty
    rw [empty, withoutBlanks_nil]
  · intro allBlank
    cases form : normalizeChars [text] with
    | nil => rfl
    | cons c rest =>
        have starts := (isNormal_normalizeChars [text]).starts
        have blank := (withoutBlanks_eq_nil_iff _).1 allBlank c (by simp [form])
        simp [form, blank] at starts

end Text

open Text (isBlank doubleQuote withoutBlanks)

namespace Token

/-! ## What a token is read from -/

/-- The text that a token stands for; of a dropped phrase, a pair of quotes. -/
def written (token : Token) : List Char :=
  match token.term? with
  | some value => value.render.toList
  | none => [doubleQuote, doubleQuote]

/-- Two quotes with nothing but blanks between them. -/
def IsBlankPhrase (piece : List Char) : Prop :=
  ∃ inside, (∀ c ∈ inside, isBlank c = true) ∧ piece = doubleQuote :: (inside ++ [doubleQuote])

/-- A token that is read from a piece of text: both hold the same characters, blanks aside, and the
token has a term unless the piece is a blank phrase. -/
structure IsReadFrom (token : Token) (piece : List Char) : Prop where
  nonempty : piece ≠ []
  same : withoutBlanks token.written = withoutBlanks piece
  dropped : token.term? = none ↔ IsBlankPhrase piece

theorem not_isBlankPhrase {c : Char} (rest : List Char) (unquoted : c ≠ doubleQuote) :
    ¬ IsBlankPhrase (c :: rest) := by
  rintro ⟨inside, -, whole⟩
  exact unquoted (List.cons.inj whole).1

theorem not_isBlankPhrase_of_clean {inside : List Char} (clean : doubleQuote ∉ inside) :
    ¬ IsBlankPhrase (doubleQuote :: inside) := by
  rintro ⟨blanks, -, whole⟩
  rw [List.cons.injEq] at whole
  exact clean (by simp [whole.2])

/-- An unclosed quote takes the whole text, of which only blanks at the end are lost. -/
theorem isReadFrom_ofUnclosed {text : List Char} (nonempty : text ≠ [])
    (unlike : ¬ IsBlankPhrase text) : IsReadFrom (ofUnclosed text) text where
  nonempty := nonempty
  same := by
    simp [written, ofUnclosed, term?, Term.render, Literal.render, Text.withoutBlanks_trimEnd]
  dropped := by simp [ofUnclosed, term?, unlike]

/-- A phrase in its written form, blanks aside, is what stood between its quotes. -/
theorem withoutBlanks_phraseOf (inside : List Char) :
    withoutBlanks (phraseOf inside).render.toList =
      withoutBlanks (doubleQuote :: (inside ++ [doubleQuote])) := by
  have rendered : (phraseOf inside).render.toList =
      doubleQuote :: (Text.normalizeChars [inside] ++ [doubleQuote]) := by
    simp [Literal.render, phraseOf, doubleQuote]
  rw [rendered, Text.withoutBlanks_solid _ isBlank_doubleQuote,
    Text.withoutBlanks_solid _ isBlank_doubleQuote, Text.withoutBlanks_append,
    Text.withoutBlanks_append, Text.withoutBlanks_normalizeChars]

theorem isReadFrom_ofQuoted (inside : List Char) :
    IsReadFrom (ofQuoted inside) (doubleQuote :: (inside ++ [doubleQuote])) := by
  have phrase_iff : IsBlankPhrase (doubleQuote :: (inside ++ [doubleQuote])) ↔
      Text.normalizeChars [inside] = [] := by
    rw [Text.normalizeChars_eq_nil_iff]
    simp [IsBlankPhrase]
  unfold ofQuoted
  by_cases blank : Text.normalizeChars [inside] = []
  · rw [if_pos (by simp [blank])]
    have solid : withoutBlanks inside = [] := by
      rw [← Text.withoutBlanks_normalizeChars, blank, Text.withoutBlanks_nil]
    refine ⟨by simp, ?_, by simp [phrase_iff, blank, term?]⟩
    simp [written, term?, Text.withoutBlanks_solid _ isBlank_doubleQuote, solid]
  · rw [if_neg (by simpa using blank)]
    exact ⟨by simp, withoutBlanks_phraseOf inside, by simp [phrase_iff, blank, term?]⟩

/-- A field and a phrase are read from the field name, a colon, and the quotes around the phrase. -/
theorem isReadFrom_fieldPhrase {field : List Char} (name : Term.IsFieldName field)
    (inside : List Char) :
    IsReadFrom (.term (.qualified (String.ofList field) (phraseOf inside)))
      (field ++ ':' :: doubleQuote :: (inside ++ [doubleQuote])) where
  nonempty := by simp
  same := by
    have rendered : written (.term (.qualified (String.ofList field) (phraseOf inside))) =
        field ++ ':' :: (phraseOf inside).render.toList := by
      simp [written, term?, Term.render]
    rw [rendered, Text.withoutBlanks_append, Text.withoutBlanks_append,
      Text.withoutBlanks_solid _ isBlank_colon, Text.withoutBlanks_solid _ isBlank_colon,
      withoutBlanks_phraseOf]
  dropped := by
    cases field with
    | nil => exact absurd rfl name.nonempty
    | cons first others =>
        have unquoted : first ≠ doubleQuote := by simpa using name.unquoted
        simpa [term?] using not_isBlankPhrase _ unquoted

theorem isReadFrom_readBare {c : Char} (rest : List Char) (solid : isBlank c = false)
    (unquoted : c ≠ doubleQuote) :
    ∃ piece, c :: rest = piece ++ (readBare (c :: rest)).2 ∧
      IsReadFrom (readBare (c :: rest)).1 piece := by
  have bare := isBare_takeWhile rest solid unquoted
  have whole : (c :: rest).takeWhile (fun c => !isBlank c)
      ++ (c :: rest).dropWhile (fun c => !isBlank c) = c :: rest :=
    List.takeWhile_append_dropWhile
  have unlike : ¬ IsBlankPhrase ((c :: rest).takeWhile fun c => !isBlank c) := by
    simpa [solid] using not_isBlankPhrase _ unquoted
  simp only [readBare]
  generalize (c :: rest).takeWhile (fun c => !isBlank c) = token at bare whole unlike
  generalize (c :: rest).dropWhile (fun c => !isBlank c) = after at whole
  cases split : splitQualifier token with
  | none =>
      refine ⟨token, whole.symm, bare.nonempty, ?_, by simp [term?, unlike]⟩
      simp [written, term?, Term.render, Literal.render]
  | some parts =>
      obtain ⟨field, value⟩ := parts
      obtain ⟨rfl, noColon, fieldNonempty, -⟩ := (splitQualifier_eq_some_iff _ _ _).1 split
      have name := isFieldName_of_bare bare noColon fieldNonempty
      by_cases quoted : value.head? = some doubleQuote
      · obtain ⟨inner, rfl⟩ := List.head?_eq_some_iff.1 quoted
        have behind : (c :: rest).drop (field.length + 2) = inner ++ after := by
          rw [← whole]
          simp [List.drop_append]
        simp only [List.head?_cons, if_true, behind]
        cases broken : breakQuote (inner ++ after) with
        | none =>
            exact ⟨c :: rest, by simp,
              isReadFrom_ofUnclosed (by simp) (not_isBlankPhrase _ unquoted)⟩
        | some parts =>
            obtain ⟨inside, behindQuote⟩ := parts
            have innerWhole := ((breakQuote_eq_some_iff _ _ _).1 broken).1
            refine ⟨_, ?_, isReadFrom_fieldPhrase name inside⟩
            rw [← whole]
            simp [innerWhole]
      · simp only [quoted, if_false]
        refine ⟨_, whole.symm, bare.nonempty, ?_, by simp [term?, unlike]⟩
        simp [written, term?, Term.render, Literal.render]

/-- What a token is read from stands at the front of the text, and what stands behind it is
left. -/
theorem isReadFrom_readToken {c : Char} (rest : List Char) (solid : isBlank c = false) :
    ∃ piece, c :: rest = piece ++ (readToken c rest).2 ∧
      IsReadFrom (readToken c rest).1 piece := by
  unfold readToken
  split
  · rename_i quoted
    subst quoted
    cases broken : breakQuote rest with
    | none =>
        have clean := (breakQuote_eq_none_iff _).1 broken
        exact ⟨doubleQuote :: rest, by simp,
          isReadFrom_ofUnclosed (by simp) (not_isBlankPhrase_of_clean clean)⟩
    | some parts =>
        obtain ⟨inside, after⟩ := parts
        obtain ⟨rfl, -⟩ := (breakQuote_eq_some_iff _ _ _).1 broken
        exact ⟨_, by simp, isReadFrom_ofQuoted inside⟩
  · rename_i unquoted
    exact isReadFrom_readBare rest solid unquoted

/-! ## Rounds -/

/-- What the scan takes from the front of a text in one round, and the token it finds there. A
blank is taken alone and is no token. -/
structure Round where
  taken : List Char
  token? : Option Token

/-- One round of the scan of a text that starts with a character, and the text left to scan. -/
def round (c : Char) (rest : List Char) : Round × List Char :=
  if isBlank c then (⟨[c], none⟩, rest)
  else
    let read := readToken c rest
    (⟨(c :: rest).take ((c :: rest).length - read.2.length), some read.1⟩, read.2)

/-- What one round takes: a blank, or the piece that a token is read from. -/
inductive Round.Takes : Round → Prop
  | blank {c : Char} (isBlank : isBlank c = true) : Round.Takes ⟨[c], none⟩
  | token {token : Token} {piece : List Char} (read : IsReadFrom token piece) :
      Round.Takes ⟨piece, some token⟩

theorem Round.Takes.nonempty {round : Round} (takes : round.Takes) : round.taken ≠ [] := by
  cases takes with
  | blank => simp
  | token read => exact read.nonempty

/-- The law of one round: it takes a blank or the piece of a token, and leaves what stands behind
that. -/
theorem takes_round (c : Char) (rest : List Char) :
    (round c rest).1.Takes ∧ c :: rest = (round c rest).1.taken ++ (round c rest).2 := by
  unfold round
  split
  · rename_i blank
    exact ⟨.blank blank, rfl⟩
  · rename_i notBlank
    obtain ⟨piece, whole, read⟩ := isReadFrom_readToken rest (by simpa using notBlank)
    have taken : (c :: rest).take ((c :: rest).length - (readToken c rest).2.length) = piece := by
      have lengths := congrArg List.length whole
      rw [List.length_append] at lengths
      rw [lengths, Nat.add_sub_cancel]
      conv_lhs => rw [whole]
      exact List.take_left
    simp only [taken]
    exact ⟨.token read, whole⟩

theorem length_round_lt (c : Char) (rest : List Char) :
    (round c rest).2.length < (c :: rest).length := by
  obtain ⟨takes, whole⟩ := takes_round c rest
  have positive := List.length_pos_iff.2 takes.nonempty
  rw [whole, List.length_append]
  omega

/-- All rounds of the scan of a text. -/
def rounds : List Char → List Round
  | [] => []
  | c :: rest => (round c rest).1 :: rounds (round c rest).2
termination_by text => text.length
decreasing_by exact length_round_lt c rest

/-- The tokens of a text are those of its rounds. -/
theorem filterMap_rounds (text : List Char) : (rounds text).filterMap Round.token? = scan text := by
  induction text using rounds.induct with
  | case1 => simp [rounds, scan]
  | case2 c rest inductionHypothesis =>
      rw [rounds]
      by_cases blank : isBlank c = true
      · simp only [round, blank, if_true] at inductionHypothesis ⊢
        rw [List.filterMap_cons, inductionHypothesis, scan_blank _ blank]
      · have solid : isBlank c = false := by simpa using blank
        simp only [round, solid, Bool.false_eq_true, if_false] at inductionHypothesis ⊢
        rw [List.filterMap_cons, inductionHypothesis, scan_solid _ solid]

/-- Every round obeys its law, and the pieces taken make up the text. The induction is on the
rounds. -/
theorem takes_rounds (text : List Char) :
    (∀ round ∈ rounds text, round.Takes) ∧ (rounds text).flatMap Round.taken = text := by
  induction text using rounds.induct with
  | case1 => simp [rounds]
  | case2 c rest inductionHypothesis =>
      obtain ⟨takes, whole⟩ := takes_round c rest
      obtain ⟨others, text⟩ := inductionHypothesis
      rw [rounds]
      refine ⟨List.forall_mem_cons.2 ⟨takes, others⟩, ?_⟩
      rw [List.flatMap_cons, text, ← whole]

theorem withoutBlanks_taken {rounds : List Round} (takes : ∀ round ∈ rounds, round.Takes) :
    withoutBlanks (rounds.flatMap Round.taken) =
      (rounds.filterMap Round.token?).flatMap fun token => withoutBlanks token.written := by
  induction rounds with
  | nil => rfl
  | cons round others inductionHypothesis =>
      obtain ⟨first, rest⟩ := List.forall_mem_cons.1 takes
      rw [List.flatMap_cons, Text.withoutBlanks_append, inductionHypothesis rest]
      cases first with
      | blank isBlank =>
          rw [List.filterMap_cons, Text.withoutBlanks_blank _ isBlank]
          rfl
      | token read => rw [List.filterMap_cons, List.flatMap_cons, read.same]

theorem length_le_taken {rounds : List Round} (takes : ∀ round ∈ rounds, round.Takes) :
    rounds.length ≤ (rounds.flatMap Round.taken).length := by
  induction rounds with
  | nil => simp
  | cons round others inductionHypothesis =>
      obtain ⟨first, rest⟩ := List.forall_mem_cons.1 takes
      have positive := List.length_pos_iff.2 first.nonempty
      have shorter := inductionHypothesis rest
      rw [List.flatMap_cons, List.length_append, List.length_cons]
      omega

end Token

namespace Query

open Token

/-- A text and its terms hold the same characters in the same order, blanks aside and with a pair
of quotes for every phrase that is dropped. Every round of the scan takes at least one character
from the front of what is left, and all rounds together take the text, so there are no more of them
than characters. -/
theorem tokenize_lossless (text : String) :
    (tokenize text = (scan text.toList).filterMap term? ∧
      withoutBlanks text.toList =
        (scan text.toList).flatMap fun token => withoutBlanks token.written) ∧
    ((rounds text.toList).filterMap Round.token? = scan text.toList ∧
      (rounds text.toList).flatMap Round.taken = text.toList ∧
      (∀ round ∈ rounds text.toList, round.Takes ∧ round.taken ≠ []) ∧
      (rounds text.toList).length ≤ text.toList.length) := by
  obtain ⟨takes, whole⟩ := takes_rounds text.toList
  have tokens := filterMap_rounds text.toList
  refine ⟨⟨rfl, ?_⟩, tokens, whole, fun round member => ⟨takes round member,
    (takes round member).nonempty⟩, ?_⟩
  · rw [← tokens, ← withoutBlanks_taken takes, whole]
  · calc (rounds text.toList).length
        ≤ ((rounds text.toList).flatMap Round.taken).length := length_le_taken takes
      _ = text.toList.length := by rw [whole]

end Query

end ShadowIndex
