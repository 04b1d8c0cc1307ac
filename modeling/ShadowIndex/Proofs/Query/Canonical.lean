import ShadowIndex.Proofs.Query.Distinct
import ShadowIndex.Proofs.Text.Normal
import ShadowIndex.Query.Token

/-!
Contract: canonical lists of terms, the ones that a query text can denote.

Owns:
- `Term.IsClosed`, terms that end where their text says so, and `Term.IsUnclosed`, a word whose
  quote was never closed;
- `Query.IsCanonical`, distinct closed terms, of which the last one may be unclosed instead;
- every text denotes a canonical list (`isCanonical_parse`).

Does not own: the written form of a list.
-/

set_option autoImplicit false

namespace ShadowIndex

open Text (isBlank doubleQuote)

namespace Term

/-- A text without blanks that does not start with a quote. -/
structure IsBare (text : List Char) : Prop where
  nonempty : text ≠ []
  solid : ∀ c ∈ text, isBlank c = false
  unquoted : text.head? ≠ some doubleQuote

/-- What can stand in front of the colon of a qualified term. -/
structure IsFieldName (name : List Char) : Prop extends IsBare name where
  noColon : ':' ∉ name

/-- The first colon of a text, if it has one, has nothing before or nothing after it. -/
def IsUnsplit (text : List Char) : Prop :=
  ∀ left right, text = left ++ ':' :: right → ':' ∉ left → left = [] ∨ right = []

/-- What can stand between two quotes. -/
structure IsPhrase (text : List Char) : Prop where
  unquoted : doubleQuote ∉ text
  normal : Text.normalizeChars [text] = text

/-- Terms whose written form shows where they end. -/
inductive IsClosed : Term → Prop
  | word {text : String} (bare : IsBare text.toList) (unsplit : IsUnsplit text.toList) :
      IsClosed (.plain (.word text))
  | phrase {text : String} (nonempty : text.toList ≠ []) (phrase : IsPhrase text.toList) :
      IsClosed (.plain (.phrase text))
  | fieldWord {field text : String} (name : IsFieldName field.toList)
      (bare : IsBare text.toList) : IsClosed (.qualified field (.word text))
  | fieldPhrase {field text : String} (name : IsFieldName field.toList)
      (phrase : IsPhrase text.toList) : IsClosed (.qualified field (.phrase text))

/-- What can stand in front of an opening quote: nothing, or a field name and a colon. -/
def IsOpening (front : List Char) : Prop :=
  front = [] ∨ ∃ name, IsFieldName name ∧ front = name ++ [':']

/-- A text in which a quote is opened and never closed, without blanks at its end. -/
def IsUnclosedText (text : List Char) : Prop :=
  ∃ front inside, IsOpening front ∧ doubleQuote ∉ inside ∧
    text = front ++ doubleQuote :: inside ∧ text.getLast?.any isBlank = false

/-- Words whose quote was never closed. -/
inductive IsUnclosed : Term → Prop
  | word {text : String} (unclosed : IsUnclosedText text.toList) :
      IsUnclosed (.plain (.word text))

/-- Closed terms, of which the last one may be unclosed instead. -/
def WellShaped : List Term → Prop
  | [] => True
  | term :: rest => (term.IsClosed ∨ rest = [] ∧ term.IsUnclosed) ∧ WellShaped rest

end Term

/-- The lists of terms that a text can denote. -/
structure Query.IsCanonical (terms : List Term) : Prop where
  nodup : terms.Nodup
  shaped : Term.WellShaped terms

/-! ## Pieces of a text -/

theorem isBlank_doubleQuote : isBlank doubleQuote = false := by decide

theorem isBlank_colon : isBlank ':' = false := by decide

namespace Token

open Term

theorem breakQuote_eq_none_iff (text : List Char) :
    breakQuote text = none ↔ doubleQuote ∉ text := by
  induction text with
  | nil => simp [breakQuote]
  | cons c rest inductionHypothesis =>
      by_cases quoted : c = doubleQuote
      · simp [breakQuote, quoted]
      · simp [breakQuote, quoted, inductionHypothesis, Ne.symm quoted]

/-- A text breaks at its first quote. -/
theorem breakQuote_eq_some_iff (text inside after : List Char) :
    breakQuote text = some (inside, after) ↔
      text = inside ++ doubleQuote :: after ∧ doubleQuote ∉ inside := by
  induction text generalizing inside with
  | nil => simp [breakQuote]
  | cons c rest inductionHypothesis =>
      by_cases quoted : c = doubleQuote
      · subst quoted
        simp only [breakQuote, if_true, Option.some.injEq, Prod.mk.injEq]
        cases inside with
        | nil => simp
        | cons first others =>
            simp only [reduceCtorEq, false_and, List.cons_append, List.cons.injEq,
              List.mem_cons, not_or, false_iff]
            rintro ⟨⟨same, -⟩, different, -⟩
            exact different same
      · simp only [breakQuote, quoted, if_false, Option.map_eq_some_iff, Prod.mk.injEq,
          Prod.exists]
        constructor
        · rintro ⟨front, rear, found, rfl, rfl⟩
          obtain ⟨rfl, clean⟩ := (inductionHypothesis front).1 found
          exact ⟨rfl, by simp [clean, Ne.symm quoted]⟩
        · rintro ⟨whole, clean⟩
          cases inside with
          | nil =>
              simp only [List.nil_append, List.cons.injEq] at whole
              exact absurd whole.1 quoted
          | cons first others =>
              simp only [List.cons_append, List.cons.injEq] at whole
              obtain ⟨rfl, rfl⟩ := whole
              simp only [List.mem_cons, not_or] at clean
              exact ⟨others, after, (inductionHypothesis others).2 ⟨rfl, clean.2⟩, rfl, rfl⟩

/-- The parts of a text at its first colon. -/
theorem takeWhile_colon {field value : List Char} (noColon : ':' ∉ field) :
    (field ++ ':' :: value).takeWhile (fun c => c != ':') = field := by
  rw [List.takeWhile_append_of_pos]
  · simp
  · intro c member
    have different : c ≠ ':' := fun same => noColon (same ▸ member)
    simpa using different

theorem dropWhile_colon {field value : List Char} (noColon : ':' ∉ field) :
    (field ++ ':' :: value).dropWhile (fun c => c != ':') = ':' :: value := by
  rw [List.dropWhile_append_of_pos]
  · simp
  · intro c member
    have different : c ≠ ':' := fun same => noColon (same ▸ member)
    simpa using different

theorem splitQualifier_append {field value : List Char} (noColon : ':' ∉ field) :
    splitQualifier (field ++ ':' :: value) =
      if field.isEmpty || value.isEmpty then none else some (field, value) := by
  simp only [splitQualifier, takeWhile_colon noColon, dropWhile_colon noColon, List.drop_one,
    List.tail_cons]

theorem splitQualifier_of_noColon {text : List Char} (noColon : ':' ∉ text) :
    splitQualifier text = none := by
  have dropped : text.dropWhile (fun c => c != ':') = [] := by
    refine List.dropWhile_eq_nil_iff.2 fun c member => ?_
    have different : c ≠ ':' := fun same => noColon (same ▸ member)
    simpa using different
  simp [splitQualifier, dropped]

/-- A text has no colon, or a first one. -/
theorem noColon_or_split (text : List Char) :
    ':' ∉ text ∨ ∃ field value, text = field ++ ':' :: value ∧ ':' ∉ field := by
  by_cases present : ':' ∈ text
  · obtain ⟨field, value, whole, noColon⟩ := List.eq_append_cons_of_mem present
    exact Or.inr ⟨field, value, whole, noColon⟩
  · exact Or.inl present

theorem splitQualifier_eq_none_iff (text : List Char) :
    splitQualifier text = none ↔ IsUnsplit text := by
  constructor
  · rintro refused left right rfl noColon
    rw [splitQualifier_append noColon] at refused
    split at refused
    · rename_i someEmpty
      simpa using someEmpty
    · simp at refused
  · intro unsplit
    rcases noColon_or_split text with noColon | ⟨field, value, rfl, noColon⟩
    · exact splitQualifier_of_noColon noColon
    · rw [splitQualifier_append noColon, if_pos]
      simpa using unsplit field value rfl noColon

theorem splitQualifier_eq_some_iff (text field value : List Char) :
    splitQualifier text = some (field, value) ↔
      text = field ++ ':' :: value ∧ ':' ∉ field ∧ field ≠ [] ∧ value ≠ [] := by
  constructor
  · intro found
    rcases noColon_or_split text with noColon | ⟨left, right, rfl, noColon⟩
    · simp [splitQualifier_of_noColon noColon] at found
    · rw [splitQualifier_append noColon] at found
      split at found
      · simp at found
      · rename_i nonempty
        simp only [Option.some.injEq, Prod.mk.injEq] at found
        obtain ⟨rfl, rfl⟩ := found
        simp only [Bool.or_eq_true, List.isEmpty_iff, not_or] at nonempty
        exact ⟨rfl, noColon, nonempty⟩
  · rintro ⟨rfl, noColon, fieldNonempty, valueNonempty⟩
    rw [splitQualifier_append noColon, if_neg]
    simp [fieldNonempty, valueNonempty]

/-! ## The tokens of a text -/

/-- A blank stands at the end of a text only behind its last quote. -/
theorem trimEnd_append_doubleQuote (front inside : List Char) :
    Text.trimEnd (front ++ doubleQuote :: inside) =
      front ++ doubleQuote :: Text.trimEnd inside := by
  simp only [Text.trimEnd, List.reverse_append, List.reverse_cons, List.append_assoc,
    List.dropWhile_append]
  split
  · rename_i allBlank
    simp [List.isEmpty_iff.1 allBlank, isBlank_doubleQuote]
  · simp

theorem isUnclosedText_trimEnd {front inside : List Char} (opening : IsOpening front)
    (clean : doubleQuote ∉ inside) :
    IsUnclosedText (Text.trimEnd (front ++ doubleQuote :: inside)) :=
  ⟨front, Text.trimEnd inside, opening,
    fun member => clean ((Text.trimEnd_isPrefix inside).subset member),
    trimEnd_append_doubleQuote front inside, Text.getLast?_trimEnd _⟩

theorem isPhrase_normalizeChars {inside : List Char} (clean : doubleQuote ∉ inside) :
    IsPhrase (Text.normalizeChars [inside]) where
  unquoted := fun member => by
    rcases Text.mem_normalizeChars member with present | isSpace
    · exact clean present
    · exact absurd isSpace (by decide)
  normal := Text.normalizeChars_normalizeChars [inside]

/-- What a token says of the terms it stands for, and of the text after it. -/
inductive Shape : Token → List Char → Prop
  | term {term : Term} (closed : term.IsClosed) (after : List Char) : Shape (.term term) after
  | blankPhrase (after : List Char) : Shape .blankPhrase after
  | unclosed {text : String} (unclosed : IsUnclosedText text.toList) : Shape (.unclosed text) []

theorem shape_ofUnclosed (front : List Char) {inside : List Char} (opening : IsOpening front)
    (clean : doubleQuote ∉ inside) : Shape (ofUnclosed (front ++ doubleQuote :: inside)) [] :=
  .unclosed (by simpa using isUnclosedText_trimEnd opening clean)

theorem shape_ofQuoted {inside : List Char} (clean : doubleQuote ∉ inside) (after : List Char) :
    Shape (ofQuoted inside) after := by
  unfold ofQuoted
  split
  · exact .blankPhrase after
  · rename_i nonempty
    refine .term (.phrase ?_ ?_) after
    · simpa using nonempty
    · simpa using isPhrase_normalizeChars clean

/-- The run of a text up to its first blank. -/
theorem isBare_takeWhile {c : Char} (rest : List Char) (solid : isBlank c = false)
    (unquoted : c ≠ doubleQuote) :
    IsBare ((c :: rest).takeWhile fun c => !isBlank c) where
  nonempty := by simp [solid]
  solid := fun d member => by simpa using List.mem_takeWhile_imp member
  unquoted := by simp [solid, unquoted]

theorem isFieldName_of_bare {field value : List Char} (bare : IsBare (field ++ ':' :: value))
    (noColon : ':' ∉ field) (nonempty : field ≠ []) : IsFieldName field where
  nonempty := nonempty
  solid := fun c member => bare.solid c (by simp [member])
  unquoted := by
    cases field with
    | nil => exact absurd rfl nonempty
    | cons first others => simpa using bare.unquoted
  noColon := noColon

theorem shape_readBare {c : Char} (rest : List Char) (solid : isBlank c = false)
    (unquoted : c ≠ doubleQuote) :
    Shape (readBare (c :: rest)).1 (readBare (c :: rest)).2 := by
  have bare := isBare_takeWhile rest solid unquoted
  have whole : (c :: rest).takeWhile (fun c => !isBlank c)
      ++ (c :: rest).dropWhile (fun c => !isBlank c) = c :: rest :=
    List.takeWhile_append_dropWhile
  simp only [readBare]
  generalize (c :: rest).takeWhile (fun c => !isBlank c) = token at bare whole
  generalize (c :: rest).dropWhile (fun c => !isBlank c) = after at whole
  cases split : splitQualifier token with
  | none => exact .term (.word (by simpa using bare) (by
      simpa using (splitQualifier_eq_none_iff token).1 split)) after
  | some parts =>
      obtain ⟨field, value⟩ := parts
      obtain ⟨rfl, noColon, fieldNonempty, valueNonempty⟩ :=
        (splitQualifier_eq_some_iff token field value).1 split
      have name := isFieldName_of_bare bare noColon fieldNonempty
      by_cases quoted : value.head? = some doubleQuote
      · obtain ⟨inner, rfl⟩ := List.head?_eq_some_iff.1 quoted
        have behind : (c :: rest).drop (field.length + 2) = inner ++ after := by
          rw [← whole]
          simp [List.drop_append]
        simp only [List.head?_cons, if_true, behind]
        cases broken : breakQuote (inner ++ after) with
        | none =>
            rw [← whole]
            have clean := (breakQuote_eq_none_iff _).1 broken
            simpa using shape_ofUnclosed (field ++ [':']) (Or.inr ⟨field, name, rfl⟩) clean
        | some parts =>
            obtain ⟨inside, behindQuote⟩ := parts
            have clean := ((breakQuote_eq_some_iff _ _ _).1 broken).2
            exact .term (.fieldPhrase (by simpa using name)
              (by simpa using isPhrase_normalizeChars clean)) behindQuote
      · simp only [quoted, if_false]
        refine .term (.fieldWord (by simpa using name) ?_) after
        rw [String.toList_ofList]
        exact ⟨valueNonempty, fun d member => bare.solid d (by simp [member]), quoted⟩

theorem shape_readToken {c : Char} (rest : List Char) (solid : isBlank c = false) :
    Shape (readToken c rest).1 (readToken c rest).2 := by
  unfold readToken
  split
  · rename_i quoted
    subst quoted
    cases broken : breakQuote rest with
    | none => exact shape_ofUnclosed [] (Or.inl rfl) ((breakQuote_eq_none_iff _).1 broken)
    | some parts =>
        obtain ⟨inside, after⟩ := parts
        exact shape_ofQuoted ((breakQuote_eq_some_iff _ _ _).1 broken).2 after
  · rename_i unquoted
    exact shape_readBare rest solid unquoted

/-- The terms of a text are closed, up to the last one. The induction is on the scan; an unclosed
token leaves no text behind it. -/
theorem wellShaped_scan (text : List Char) : WellShaped ((scan text).filterMap term?) := by
  induction text using scan.induct with
  | case1 => simp [scan, WellShaped]
  | case2 c rest solid inductionHypothesis =>
      rw [scan, dif_pos solid]
      have shape := shape_readToken rest solid
      generalize readToken c rest = read at shape inductionHypothesis
      obtain ⟨token, after⟩ := read
      cases shape with
      | term closed => exact ⟨Or.inl closed, inductionHypothesis⟩
      | blankPhrase => exact inductionHypothesis
      | unclosed unclosed => simpa [term?, scan, WellShaped] using Or.inr (IsUnclosed.word unclosed)
  | case3 c rest blank inductionHypothesis =>
      rw [scan, dif_neg blank]
      exact inductionHypothesis

end Token

/-! ## Distinct terms -/

namespace Term

theorem WellShaped.filter {terms : List Term} (shaped : WellShaped terms) (keep : Term → Bool) :
    WellShaped (terms.filter keep) := by
  induction terms with
  | nil => trivial
  | cons term rest inductionHypothesis =>
      obtain ⟨first, restShaped⟩ := shaped
      rw [List.filter_cons]
      split
      · refine ⟨first.imp_right fun last => ⟨?_, last.2⟩, inductionHypothesis restShaped⟩
        simp [last.1]
      · exact inductionHypothesis restShaped

theorem WellShaped.distinct {terms : List Term} (shaped : WellShaped terms) :
    WellShaped (distinct terms) := by
  induction terms with
  | nil => trivial
  | cons term rest inductionHypothesis =>
      obtain ⟨first, restShaped⟩ := shaped
      refine ⟨first.imp_right fun last => ⟨?_, last.2⟩, (inductionHypothesis restShaped).filter _⟩
      simp [last.1, ShadowIndex.distinct]

end Term

/-- Every text denotes a canonical list of terms. -/
theorem Query.isCanonical_parse (text : String) : IsCanonical (parse text).terms where
  nodup := nodup_distinct _
  shaped := (Token.wellShaped_scan text.toList).distinct

end ShadowIndex
