import ShadowIndex.Proofs.Query.Concatenation
import ShadowIndex.Proofs.Text.Words

/-!
Contract: query texts that differ in nothing but their blanks.

Owns:
- `Text.Respaced`, texts with the same runs of blanks, each of any length and kind; these are the
  texts that collapse alike (`respaced_iff`);
- the tokens of a collapsed text (`scan_collapse`): only what stands behind an unclosed quote
  changes;
- `Query.IsSingleSpaced`, texts that have nothing there that would change, and the query that two
  such texts share (`parse_eq_of_respaced`).

Does not own: what a term matches.
-/

set_option autoImplicit false

namespace ShadowIndex

open Text (isBlank doubleQuote)

namespace Text

/-! ## Texts with other blanks -/

/-- A run of blanks, with at least one of them. -/
structure IsGap (gap : List Char) : Prop where
  nonempty : gap ≠ []
  blank : ∀ c ∈ gap, isBlank c = true

/-- Texts in which every maximal run of blanks stands in the place of one of the other. -/
inductive Respaced : List Char → List Char → Prop
  | nil : Respaced [] []
  | solid {c : Char} {left right : List Char} (notBlank : isBlank c = false)
      (rest : Respaced left right) : Respaced (c :: left) (c :: right)
  | gap {before after left right : List Char} (isGap : IsGap before) (isOther : IsGap after)
      (leftStarts : left.head?.any isBlank = false)
      (rightStarts : right.head?.any isBlank = false)
      (rest : Respaced left right) : Respaced (before ++ left) (after ++ right)

theorem collapse_append_of_solid {front : List Char} (solid : ∀ c ∈ front, isBlank c = false)
    (rest : List Char) : collapse (front ++ rest) = front ++ collapse rest := by
  induction front with
  | nil => rfl
  | cons c others inductionHypothesis =>
      rw [List.cons_append, collapse_solid _ (solid c List.mem_cons_self),
        inductionHypothesis fun d member => solid d (List.mem_cons_of_mem c member),
        List.cons_append]

/-- A run of blanks collapses to one space. -/
theorem collapse_gap {gap rest : List Char} (isGap : IsGap gap)
    (starts : rest.head?.any isBlank = false) : collapse (gap ++ rest) = ' ' :: collapse rest := by
  obtain ⟨nonempty, blank⟩ := isGap
  induction gap with
  | nil => exact absurd rfl nonempty
  | cons c others inductionHypothesis =>
      rw [List.cons_append, collapse_blank _ (blank c List.mem_cons_self)]
      cases others with
      | nil => simp [starts]
      | cons d more =>
          have next : isBlank d = true := blank d (by simp)
          rw [inductionHypothesis (by simp) fun e member => blank e (List.mem_cons_of_mem c member)]
          simp [next]

/-- A text that starts with a blank starts with a run of them. -/
theorem exists_gap_append {c : Char} (rest : List Char) (blank : isBlank c = true) :
    ∃ gap others, c :: rest = gap ++ others ∧ IsGap gap ∧ others.head?.any isBlank = false := by
  refine ⟨(c :: rest).takeWhile isBlank, trimStart (c :: rest),
    List.takeWhile_append_dropWhile.symm, ⟨by simp [blank], ?_⟩, head?_trimStart _⟩
  exact fun d member => List.mem_takeWhile_imp member

/-- What a collapsed text starts with: a character of the text, or the space of a run of blanks. -/
theorem collapse_eq_cons_inv {text rest : List Char} {c : Char}
    (collapsed : collapse text = c :: rest) :
    (isBlank c = false ∧ ∃ others, text = c :: others ∧ collapse others = rest) ∨
      (c = ' ' ∧ ∃ gap others, text = gap ++ others ∧ IsGap gap ∧
        others.head?.any isBlank = false ∧ collapse others = rest) := by
  cases text with
  | nil => cases collapsed
  | cons d more =>
      by_cases blank : isBlank d = true
      · obtain ⟨gap, others, whole, isGap, starts⟩ := exists_gap_append more blank
        rw [whole, collapse_gap isGap starts] at collapsed
        cases collapsed
        exact Or.inr ⟨rfl, gap, others, whole, isGap, starts, rfl⟩
      · have solid : isBlank d = false := by simpa using blank
        rw [collapse_solid _ solid] at collapsed
        cases collapsed
        exact Or.inl ⟨solid, more, rfl, rfl⟩

/-- Texts that collapse to one text. The induction is on that text: both start with its first
character, or with a run of blanks for its first space. -/
theorem respaced_of_collapse {collapsed left right : List Char}
    (ofLeft : collapse left = collapsed) (ofRight : collapse right = collapsed) :
    Respaced left right := by
  induction collapsed generalizing left right with
  | nil =>
      rw [(collapse_eq_nil_iff left).1 ofLeft, (collapse_eq_nil_iff right).1 ofRight]
      exact .nil
  | cons c rest inductionHypothesis =>
      rcases collapse_eq_cons_inv ofLeft with
        ⟨notBlank, others, rfl, othersLeft⟩ |
        ⟨isSpace, before, others, rfl, isGap, leftStarts, othersLeft⟩
      · rcases collapse_eq_cons_inv ofRight with
          ⟨-, more, rfl, moreRight⟩ | ⟨isSpace, -⟩
        · exact .solid notBlank (inductionHypothesis othersLeft moreRight)
        · simp [isSpace, isBlank_space] at notBlank
      · rcases collapse_eq_cons_inv ofRight with
          ⟨notBlank, -⟩ | ⟨-, after, more, rfl, isOther, rightStarts, moreRight⟩
        · simp [isSpace, isBlank_space] at notBlank
        · exact .gap isGap isOther leftStarts rightStarts
            (inductionHypothesis othersLeft moreRight)

/-- Texts differ in their blanks alone exactly if they collapse alike. -/
theorem respaced_iff (left right : List Char) :
    Respaced left right ↔ collapse left = collapse right := by
  constructor
  · intro respaced
    induction respaced with
    | nil => rfl
    | solid notBlank _ inductionHypothesis =>
        rw [collapse_solid _ notBlank, collapse_solid _ notBlank, inductionHypothesis]
    | gap isGap isOther leftStarts rightStarts _ inductionHypothesis =>
        rw [collapse_gap isGap leftStarts, collapse_gap isOther rightStarts, inductionHypothesis]
  · intro same
    exact respaced_of_collapse same rfl

instance (left right : List Char) : Decidable (Respaced left right) :=
  decidable_of_iff _ (respaced_iff left right).symm

end Text

namespace Token

open Text (collapse)

/-! ## The tokens of a collapsed text -/

/-- A token with the runs of blanks behind an unclosed quote collapsed. -/
def collapsed : Token → Token
  | unclosed text => unclosed (String.ofList (collapse text.toList))
  | token => token

theorem breakQuote_collapse (text : List Char) :
    breakQuote (collapse text) = (breakQuote text).map (Prod.map collapse collapse) := by
  have clean {inside : List Char} (noQuote : doubleQuote ∉ inside) :
      doubleQuote ∉ collapse inside := by
    intro member
    exact (Text.mem_collapse member).elim noQuote (by decide)
  cases broken : breakQuote text with
  | none =>
      rw [breakQuote_eq_none_iff] at broken
      exact (breakQuote_eq_none_iff _).2 (clean broken)
  | some parts =>
      obtain ⟨inside, after⟩ := parts
      obtain ⟨rfl, noQuote⟩ := (breakQuote_eq_some_iff _ _ _).1 broken
      refine (breakQuote_eq_some_iff _ _ _).2 ⟨?_, clean noQuote⟩
      rw [Text.collapse_append (Or.inr (by simp [isBlank_doubleQuote])),
        Text.collapse_solid _ isBlank_doubleQuote]

theorem phraseOf_collapse (inside : List Char) : phraseOf (collapse inside) = phraseOf inside := by
  rw [phraseOf, phraseOf, Text.normalizeChars_collapse]

theorem ofQuoted_collapse (inside : List Char) :
    ofQuoted (collapse inside) = (ofQuoted inside).collapsed := by
  simp only [ofQuoted, phraseOf_collapse, Text.normalizeChars_collapse]
  split <;> rfl

theorem ofUnclosed_collapse (text : List Char) :
    ofUnclosed (collapse text) = (ofUnclosed text).collapsed := by
  simp only [ofUnclosed, collapsed, Text.trimEnd_collapse, String.toList_ofList]

section FirstRun

/-! A text and its collapsed form start with the same characters up to the first blank. -/

variable (text : List Char)

theorem collapse_eq_run_append :
    collapse text = text.takeWhile (fun c => !isBlank c) ++
      collapse (text.dropWhile fun c => !isBlank c) := by
  rw [← Text.collapse_append_of_solid fun c member => Text.solid_of_mem_takeWhile member,
    List.takeWhile_append_dropWhile]

theorem takeWhile_collapse :
    (collapse text).takeWhile (fun c => !isBlank c) = text.takeWhile fun c => !isBlank c := by
  rw [collapse_eq_run_append]
  exact takeWhile_solid (fun c member => Text.solid_of_mem_takeWhile member)
    (Text.head?_collapse_all (Text.head?_dropWhile_solid text))

theorem dropWhile_collapse :
    (collapse text).dropWhile (fun c => !isBlank c) =
      collapse (text.dropWhile fun c => !isBlank c) := by
  rw [collapse_eq_run_append]
  exact dropWhile_solid (fun c member => Text.solid_of_mem_takeWhile member)
    (Text.head?_collapse_all (Text.head?_dropWhile_solid text))

theorem drop_collapse {count : Nat}
    (inRun : count ≤ (text.takeWhile fun c => !isBlank c).length) :
    (collapse text).drop count = collapse (text.drop count) := by
  have solid : ∀ c ∈ (text.takeWhile fun c => !isBlank c).drop count, isBlank c = false :=
    fun c member => Text.solid_of_mem_takeWhile (List.mem_of_mem_drop member)
  calc (collapse text).drop count
      = (text.takeWhile fun c => !isBlank c).drop count ++
          collapse (text.dropWhile fun c => !isBlank c) := by
        rw [collapse_eq_run_append, List.drop_append_of_le_length inRun]
    _ = collapse ((text.takeWhile fun c => !isBlank c).drop count ++
          text.dropWhile fun c => !isBlank c) := (Text.collapse_append_of_solid solid _).symm
    _ = collapse (text.drop count) := by
        rw [← List.drop_append_of_le_length inRun, List.takeWhile_append_dropWhile]

end FirstRun

/-- Collapsing a text collapses what is left of it behind its first token. -/
theorem readBare_collapse (text : List Char) :
    readBare (collapse text) = ((readBare text).1.collapsed, collapse (readBare text).2) := by
  simp only [readBare, takeWhile_collapse, dropWhile_collapse]
  cases split : splitQualifier (text.takeWhile fun c => !isBlank c) with
  | none => rfl
  | some parts =>
      obtain ⟨field, value⟩ := parts
      by_cases quoted : value.head? = some doubleQuote
      · simp only [quoted, if_true]
        rw [drop_collapse text (length_field_le split), breakQuote_collapse]
        cases breakQuote (text.drop (field.length + 2)) with
        | none => simp [ofUnclosed_collapse, collapse]
        | some found => simp [phraseOf_collapse, collapsed]
      · simp only [quoted, if_false]
        rfl

theorem readToken_collapse {c : Char} (rest : List Char) (solid : isBlank c = false) :
    readToken c (collapse rest) =
      ((readToken c rest).1.collapsed, collapse (readToken c rest).2) := by
  unfold readToken
  split
  · rw [breakQuote_collapse]
    cases breakQuote rest with
    | none =>
        rw [Option.map_none, ← Text.collapse_solid rest solid, ofUnclosed_collapse]
        rfl
    | some found => simp [ofQuoted_collapse]
  · rw [← Text.collapse_solid rest solid, readBare_collapse]

/-- The tokens of a collapsed text are those of the text, each collapsed. The induction is on the
scan of the text. -/
theorem scan_collapse (text : List Char) : scan (collapse text) = (scan text).map collapsed := by
  induction text using scan.induct with
  | case1 => simp [collapse, scan]
  | case2 c rest solid inductionHypothesis =>
      rw [Text.collapse_solid _ solid, scan_solid _ solid, scan_solid _ solid,
        readToken_collapse rest solid, inductionHypothesis, List.map_cons]
  | case3 c rest notSolid inductionHypothesis =>
      have blank : isBlank c = true := by simpa using notSolid
      rw [Text.collapse_blank _ blank, scan_blank _ blank, ← inductionHypothesis]
      split
      · rfl
      · exact scan_blank _ Text.isBlank_space

end Token

namespace Query

open Text (Respaced IsSpaced collapse)

/-! ## Queries with other blanks -/

variable {left right text : String}

/-- A text in which single spaces are the only blanks behind a quote that is never closed, up to
the blanks at the end of the text. -/
def IsSingleSpaced (text : String) : Prop :=
  ∀ literal, .unclosed literal ∈ Token.scan text.toList → IsSpaced literal.toList

theorem IsClosedText.isSingleSpaced (closed : IsClosedText text) : IsSingleSpaced text :=
  fun literal member => absurd member (closed literal)

/-- Collapsing a text opens no quote, and closes none. -/
theorem isClosedText_of_respaced (respaced : Respaced left.toList right.toList)
    (closed : IsClosedText left) : IsClosedText right := by
  intro literal member
  have isToken : Token.unclosed (String.ofList (collapse literal.toList)) ∈
      Token.scan (collapse left.toList) := by
    rw [(Text.respaced_iff _ _).1 respaced, Token.scan_collapse]
    exact List.mem_map_of_mem member
  rw [Token.scan_collapse] at isToken
  obtain ⟨token, isLeft, same⟩ := List.mem_map.1 isToken
  cases token with
  | term value => cases same
  | blankPhrase => cases same
  | unclosed other => exact closed other isLeft

theorem scan_collapse_of_isSingleSpaced (spaced : IsSingleSpaced text) :
    Token.scan (collapse text.toList) = Token.scan text.toList := by
  have same : ∀ token ∈ Token.scan text.toList, token.collapsed = token := by
    intro token member
    cases token with
    | term value => rfl
    | blankPhrase => rfl
    | unclosed literal =>
        rw [Token.collapsed, Text.collapse_eq_self (spaced literal member), String.ofList_toList]
  rw [Token.scan_collapse, List.map_congr_left same, List.map_id']

/-- Texts that differ in their blanks alone denote one query, if single spaces are all that stands
behind a quote that is never closed. -/
theorem parse_eq_of_respaced (respaced : Respaced left.toList right.toList)
    (leftSpaced : IsSingleSpaced left) (rightSpaced : IsSingleSpaced right) :
    parse right = parse left := by
  rw [parse, parse, tokenize, tokenize, ← scan_collapse_of_isSingleSpaced leftSpaced,
    ← scan_collapse_of_isSingleSpaced rightSpaced, (Text.respaced_iff _ _).1 respaced]

end Query

end ShadowIndex
