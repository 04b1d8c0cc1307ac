import ShadowIndex.Index.Match
import ShadowIndex.Proofs.Query.RoundTrip

/-!
Contract: query texts written one behind the other.

Owns:
- `Query.IsClosedText`, texts without a quote that is opened and never closed;
- the tokens of a closed text with a blank behind it, and of a text with blanks around it;
- the terms and the field names of both parts together.

Does not own: what a term matches.
-/

set_option autoImplicit false

namespace ShadowIndex

open Text (isBlank doubleQuote)

/-! ## Blank text -/

theorem Text.trimEnd_append_blank {gap : List Char} (blank : ∀ c ∈ gap, isBlank c = true)
    (text : List Char) : trimEnd (text ++ gap) = trimEnd text := by
  rw [trimEnd, List.reverse_append, List.dropWhile_append_of_pos, trimEnd]
  exact fun c member => blank c (List.mem_reverse.1 member)

namespace Token

variable {rest gap : List Char}

theorem doubleQuote_not_mem (blank : ∀ c ∈ gap, isBlank c = true) : doubleQuote ∉ gap := by
  intro member
  have impossible := blank _ member
  rw [isBlank_doubleQuote] at impossible
  cases impossible

theorem head?_all_of_blank (blank : ∀ c ∈ gap, isBlank c = true) :
    gap.head?.all isBlank = true := by
  cases gap with
  | nil => rfl
  | cons c others => simpa using blank c List.mem_cons_self

theorem scan_of_blank (blank : ∀ c ∈ gap, isBlank c = true) (rest : List Char) :
    scan (gap ++ rest) = scan rest := by
  induction gap with
  | nil => rfl
  | cons c others inductionHypothesis =>
      rw [List.cons_append, scan_blank _ (blank c List.mem_cons_self)]
      exact inductionHypothesis fun d member => blank d (List.mem_cons_of_mem c member)

/-! ## One token before other text -/

theorem takeWhile_append (ends : rest.head?.all isBlank = true) (text : List Char) :
    (text ++ rest).takeWhile (fun c => !isBlank c) = text.takeWhile fun c => !isBlank c := by
  induction text with
  | nil => simpa using @takeWhile_solid [] rest (by simp) ends
  | cons c others inductionHypothesis =>
      rw [List.cons_append, List.takeWhile_cons, List.takeWhile_cons, inductionHypothesis]

theorem dropWhile_append (ends : rest.head?.all isBlank = true) (text : List Char) :
    (text ++ rest).dropWhile (fun c => !isBlank c) =
      (text.dropWhile fun c => !isBlank c) ++ rest := by
  induction text with
  | nil => simpa using @dropWhile_solid [] rest (by simp) ends
  | cons c others inductionHypothesis =>
      rw [List.cons_append, List.dropWhile_cons, List.dropWhile_cons, inductionHypothesis]
      split <;> rfl

theorem breakQuote_append {text inside after : List Char}
    (broken : breakQuote text = some (inside, after)) (rest : List Char) :
    breakQuote (text ++ rest) = some (inside, after ++ rest) := by
  obtain ⟨rfl, clean⟩ := (breakQuote_eq_some_iff _ _ _).1 broken
  exact (breakQuote_eq_some_iff _ _ _).2 ⟨by simp, clean⟩

/-- A value starts within its token, behind the colon. -/
theorem length_field_le {token field value : List Char}
    (split : splitQualifier token = some (field, value)) : field.length + 2 ≤ token.length := by
  obtain ⟨whole, -, -, nonempty⟩ := (splitQualifier_eq_some_iff _ _ _).1 split
  have positive := List.length_pos_iff.2 nonempty
  rw [whole, List.length_append, List.length_cons]
  omega

theorem length_opening_le {text field value : List Char}
    (split : splitQualifier (text.takeWhile fun c => !isBlank c) = some (field, value)) :
    field.length + 2 ≤ text.length :=
  (length_field_le split).trans (List.takeWhile_sublist _).length_le

/-- A token in which every quote is closed ends where it did, whatever stands behind the blank that
follows it. -/
theorem readBare_append (ends : rest.head?.all isBlank = true) {text : List Char}
    (closed : ∀ literal, (readBare text).1 ≠ .unclosed literal) :
    readBare (text ++ rest) = ((readBare text).1, (readBare text).2 ++ rest) := by
  simp only [readBare, takeWhile_append ends, dropWhile_append ends] at closed ⊢
  cases split : splitQualifier (text.takeWhile fun c => !isBlank c) with
  | none => rfl
  | some parts =>
      obtain ⟨field, value⟩ := parts
      simp only [split] at closed ⊢
      by_cases quoted : value.head? = some doubleQuote
      · simp only [quoted, if_true] at closed ⊢
        rw [List.drop_append_of_le_length (length_opening_le split)]
        cases broken : breakQuote (text.drop (field.length + 2)) with
        | none =>
            rw [broken] at closed
            exact absurd rfl (closed _)
        | some found =>
            obtain ⟨inside, after⟩ := found
            rw [breakQuote_append broken]
      · simp only [quoted, if_false]

theorem readToken_append (ends : rest.head?.all isBlank = true) {c : Char} {text : List Char}
    (closed : ∀ literal, (readToken c text).1 ≠ .unclosed literal) :
    readToken c (text ++ rest) = ((readToken c text).1, (readToken c text).2 ++ rest) := by
  unfold readToken at closed ⊢
  split
  · rename_i quoted
    simp only [quoted, if_true] at closed ⊢
    cases broken : breakQuote text with
    | none =>
        rw [broken] at closed
        exact absurd rfl (closed _)
    | some found =>
        obtain ⟨inside, after⟩ := found
        rw [breakQuote_append broken]
  · rename_i bare
    simp only [bare, if_false] at closed ⊢
    exact readBare_append ends closed

theorem breakQuote_append_blank {text : List Char} (unbroken : breakQuote text = none)
    (blank : ∀ c ∈ gap, isBlank c = true) : breakQuote (text ++ gap) = none := by
  rw [breakQuote_eq_none_iff] at unbroken ⊢
  rw [List.mem_append, not_or]
  exact ⟨unbroken, doubleQuote_not_mem blank⟩

theorem ofUnclosed_append_blank (blank : ∀ c ∈ gap, isBlank c = true) (text : List Char) :
    ofUnclosed (text ++ gap) = ofUnclosed text := by
  rw [ofUnclosed, ofUnclosed, Text.trimEnd_append_blank blank]

/-- A quote that is never closed takes the rest of the text, but for the blanks at its end. -/
theorem readBare_append_blank {text : List Char} {literal : String}
    (unclosed : (readBare text).1 = .unclosed literal) (blank : ∀ c ∈ gap, isBlank c = true) :
    readBare (text ++ gap) = readBare text := by
  have ends := head?_all_of_blank blank
  simp only [readBare, takeWhile_append ends, dropWhile_append ends] at unclosed ⊢
  cases split : splitQualifier (text.takeWhile fun c => !isBlank c) with
  | none => simp [split] at unclosed
  | some parts =>
      obtain ⟨field, value⟩ := parts
      simp only [split] at unclosed ⊢
      by_cases quoted : value.head? = some doubleQuote
      · simp only [quoted, if_true] at unclosed ⊢
        rw [List.drop_append_of_le_length (length_opening_le split)]
        cases broken : breakQuote (text.drop (field.length + 2)) with
        | none => rw [breakQuote_append_blank broken blank, ofUnclosed_append_blank blank]
        | some found => simp [broken] at unclosed
      · simp [quoted] at unclosed

theorem readToken_append_blank {c : Char} {text : List Char} {literal : String}
    (unclosed : (readToken c text).1 = .unclosed literal) (blank : ∀ c ∈ gap, isBlank c = true) :
    readToken c (text ++ gap) = readToken c text := by
  unfold readToken at unclosed ⊢
  split
  · rename_i quoted
    simp only [quoted, if_true] at unclosed ⊢
    cases broken : breakQuote text with
    | none =>
        rw [breakQuote_append_blank broken blank, ← List.cons_append, ofUnclosed_append_blank blank]
    | some found =>
        rw [broken] at unclosed
        simp only [ofQuoted] at unclosed
        split at unclosed <;> cases unclosed
  · rename_i bare
    simp only [bare, if_false] at unclosed
    exact readBare_append_blank unclosed blank

/-! ## All tokens -/

/-- The tokens of a text in which every quote is closed stand before the tokens of what follows a
blank. The induction is on the scan of the first text. -/
theorem scan_append (ends : rest.head?.all isBlank = true) (text : List Char)
    (closed : ∀ literal, .unclosed literal ∉ scan text) :
    scan (text ++ rest) = scan text ++ scan rest := by
  induction text using scan.induct with
  | case1 => simp [scan]
  | case2 c text solid inductionHypothesis =>
      rw [scan_solid _ solid] at closed
      have first : ∀ literal, (readToken c text).1 ≠ .unclosed literal := fun literal same =>
        closed literal (by simp [same])
      rw [List.cons_append, scan_solid _ solid, scan_solid _ solid, readToken_append ends first,
        inductionHypothesis fun literal member => closed literal (List.mem_cons_of_mem _ member),
        List.cons_append]
  | case3 c text blank inductionHypothesis =>
      have isBlank : isBlank c = true := by simpa using blank
      rw [scan_blank _ isBlank] at closed ⊢
      rw [List.cons_append, scan_blank _ isBlank]
      exact inductionHypothesis closed

/-- Blanks at the end of a text make no difference to its tokens. -/
theorem scan_append_blank (blank : ∀ c ∈ gap, isBlank c = true) (text : List Char) :
    scan (text ++ gap) = scan text := by
  induction text using scan.induct with
  | case1 => simpa [scan] using scan_of_blank blank []
  | case2 c text solid inductionHypothesis =>
      rw [List.cons_append, scan_solid _ solid, scan_solid _ solid]
      by_cases unclosed : ∃ literal, (readToken c text).1 = .unclosed literal
      · obtain ⟨literal, unclosed⟩ := unclosed
        rw [readToken_append_blank unclosed blank]
      · have closed : ∀ literal, (readToken c text).1 ≠ .unclosed literal := not_exists.1 unclosed
        rw [readToken_append (head?_all_of_blank blank) closed, inductionHypothesis]
  | case3 c text blankHead inductionHypothesis =>
      have isBlank : isBlank c = true := by simpa using blankHead
      rw [List.cons_append, scan_blank _ isBlank, scan_blank _ isBlank, inductionHypothesis]

end Token

/-! ## Terms -/

namespace Query

/-- A text in which every quote that is opened is closed. -/
def IsClosedText (text : String) : Prop := ∀ literal, .unclosed literal ∉ Token.scan text.toList

/-- A text of blanks only, perhaps of none. -/
def IsBlankText (text : String) : Prop := ∀ c ∈ text.toList, Text.isBlank c = true

instance (text : String) : Decidable (IsBlankText text) :=
  decidable_of_iff (text.toList.all Text.isBlank = true) List.all_eq_true

/-- The terms of a text in which every quote is closed stand before those of what follows a
blank. -/
theorem tokenize_append {left gap : String} (closed : IsClosedText left) (blank : IsBlankText gap)
    (nonempty : gap ≠ "") (right : String) :
    tokenize (left ++ gap ++ right) = tokenize left ++ tokenize right := by
  have ends : (gap.toList ++ right.toList).head?.all Text.isBlank = true := by
    rw [List.head?_append_of_ne_nil _ (by simpa using nonempty)]
    exact Token.head?_all_of_blank blank
  simp only [tokenize, String.toList_append, List.append_assoc]
  rw [Token.scan_append ends _ closed, Token.scan_of_blank blank, List.filterMap_append]

/-- Blanks around a text make no difference to the query that it denotes. -/
theorem parse_padded {before after : String} (blankBefore : IsBlankText before)
    (blankAfter : IsBlankText after) (text : String) :
    parse (before ++ text ++ after) = parse text := by
  simp only [parse, tokenize, String.toList_append, List.append_assoc]
  rw [Token.scan_of_blank blankBefore, Token.scan_append_blank blankAfter]

/-! ## Both parts together -/

/-- A query that asks for what two queries ask for. -/
def Joins (left right both : Query) : Prop :=
  ∀ term, term ∈ both.terms ↔ term ∈ left.terms ∨ term ∈ right.terms

/-- Two texts one behind the other ask for what each of them asks for, also where they share
terms. -/
theorem joins_append {left gap : String} (closed : IsClosedText left) (blank : IsBlankText gap)
    (nonempty : gap ≠ "") (right : String) :
    Joins (parse left) (parse right) (parse (left ++ gap ++ right)) := by
  intro term
  simp only [parse, mem_distinct_iff, tokenize_append closed blank nonempty, List.mem_append]

theorem mem_qualifiers_iff (query : Query) (name : String) :
    name ∈ query.qualifiers ↔ ∃ term ∈ query.terms, term.field? = some name := by
  rw [qualifiers, mem_distinct_iff, List.mem_filterMap]

namespace Joins

variable {left right both : Query} (joins : Joins left right both)
include joins

theorem isBlank_eq : both.isBlank = (left.isBlank && right.isBlank) := by
  rw [Bool.eq_iff_iff, Bool.and_eq_true]
  simp only [isBlank, List.isEmpty_iff, List.eq_nil_iff_forall_not_mem, joins _, not_or]
  exact forall_and

theorem all_qualifiers_eq (test : String → Bool) :
    both.qualifiers.all test = (left.qualifiers.all test && right.qualifiers.all test) := by
  rw [Bool.eq_iff_iff, Bool.and_eq_true]
  simp only [List.all_eq_true, mem_qualifiers_iff, joins _]
  constructor
  · intro all
    exact ⟨fun name ⟨term, member, isName⟩ => all name ⟨term, Or.inl member, isName⟩,
      fun name ⟨term, member, isName⟩ => all name ⟨term, Or.inr member, isName⟩⟩
  · rintro ⟨inLeft, inRight⟩ name ⟨term, member | member, isName⟩
    · exact inLeft name ⟨term, member, isName⟩
    · exact inRight name ⟨term, member, isName⟩

/-- An entry matches both parts exactly if it matches each. -/
theorem accepts_eq (definition : Definition) (entry : Entry) :
    definition.accepts both entry =
      (definition.accepts left entry && definition.accepts right entry) := by
  rw [Bool.eq_iff_iff, Bool.and_eq_true]
  simp only [Definition.accepts, List.all_eq_true, joins _, or_imp]
  exact forall_and

end Joins

end Query

end ShadowIndex
