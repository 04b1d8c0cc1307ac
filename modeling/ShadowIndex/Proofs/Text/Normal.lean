import Mathlib.Data.List.DropRight
import ShadowIndex.Text.Blank

/-!
Contract: what the normal form of a text looks like, and that it is final.

Owns:
- `IsSpaced`, texts whose only blanks are single spaces, and `IsNormal`, those that neither start
  nor end with one;
- the normal form of any fragments is normal, and a normal text is its own normal form;
- the characters of a normal form.

Does not own: which words a normal form holds.
-/

set_option autoImplicit false

namespace ShadowIndex.Text

/-- Every blank of a text is a space, and no blank follows it. -/
def IsSpaced : List Char → Prop
  | [] => True
  | c :: rest => (isBlank c = true → c = ' ' ∧ rest.head?.any isBlank = false) ∧ IsSpaced rest

/-- A text of words with single spaces between them. -/
structure IsNormal (text : List Char) : Prop where
  spaced : IsSpaced text
  starts : text.head?.any isBlank = false
  ends : text.getLast?.any isBlank = false

/-! ## Collapsed texts -/

theorem head?_collapse {text : List Char} (solid : text.head?.any isBlank = false) :
    (collapse text).head? = text.head? := by
  cases text with
  | nil => rfl
  | cons c rest =>
      have notBlank : isBlank c = false := by simpa using solid
      simp [collapse, notBlank]

theorem isSpaced_collapse (text : List Char) : IsSpaced (collapse text) := by
  induction text with
  | nil => trivial
  | cons c rest inductionHypothesis =>
      by_cases blank : isBlank c = true
      · by_cases next : rest.head?.any isBlank = true
        · simpa [collapse, blank, next] using inductionHypothesis
        · have nextSolid : rest.head?.any isBlank = false := by simpa using next
          have collapsed : collapse (c :: rest) = ' ' :: collapse rest := by
            simp [collapse, blank, nextSolid]
          rw [collapsed]
          exact ⟨fun _ => ⟨rfl, by rw [head?_collapse nextSolid]; exact nextSolid⟩,
            inductionHypothesis⟩
      · simp only [collapse, blank, Bool.false_eq_true, if_false]
        exact ⟨fun isBlankToo => absurd isBlankToo blank, inductionHypothesis⟩

theorem collapse_eq_self {text : List Char} (spaced : IsSpaced text) : collapse text = text := by
  induction text with
  | nil => rfl
  | cons c rest inductionHypothesis =>
      obtain ⟨single, restSpaced⟩ := spaced
      by_cases blank : isBlank c = true
      · obtain ⟨rfl, nextSolid⟩ := single blank
        simp [collapse, blank, nextSolid, inductionHypothesis restSpaced]
      · simp [collapse, blank, inductionHypothesis restSpaced]

theorem mem_collapse {text : List Char} {c : Char} (member : c ∈ collapse text) :
    c ∈ text ∨ c = ' ' := by
  induction text with
  | nil => simp [collapse] at member
  | cons first rest inductionHypothesis =>
      simp only [collapse] at member
      split at member
      · split at member
        · exact (inductionHypothesis member).imp_left (List.mem_cons_of_mem first)
        · rcases List.mem_cons.1 member with same | member
          · exact Or.inr same
          · exact (inductionHypothesis member).imp_left (List.mem_cons_of_mem first)
      · rcases List.mem_cons.1 member with same | member
        · exact Or.inl (by simp [same])
        · exact (inductionHypothesis member).imp_left (List.mem_cons_of_mem first)

/-! ## Trimmed texts -/

theorem IsSpaced.of_append_right (before : List Char) {after : List Char}
    (spaced : IsSpaced (before ++ after)) : IsSpaced after := by
  induction before with
  | nil => exact spaced
  | cons _ _ inductionHypothesis => exact inductionHypothesis spaced.2

theorem IsSpaced.of_append_left {before : List Char} (after : List Char)
    (spaced : IsSpaced (before ++ after)) : IsSpaced before := by
  induction before with
  | nil => trivial
  | cons c rest inductionHypothesis =>
      refine ⟨fun blank => ⟨(spaced.1 blank).1, ?_⟩, inductionHypothesis spaced.2⟩
      have next := (spaced.1 blank).2
      cases rest with
      | nil => rfl
      | cons _ _ => exact next

/-- What stands before the blanks at the end of a text. -/
theorem trimEnd_isPrefix (text : List Char) : trimEnd text <+: text :=
  List.rdropWhile_prefix isBlank text

theorem getLast?_trimEnd (text : List Char) : (trimEnd text).getLast?.any isBlank = false := by
  by_cases isEmpty : trimEnd text = []
  · simp [isEmpty]
  · have last : isBlank ((trimEnd text).getLast isEmpty) = false :=
      Bool.eq_false_iff.2 (List.rdropWhile_last_not isBlank text isEmpty)
    simp [List.getLast?_eq_getLast_of_ne_nil isEmpty, last]

theorem trimEnd_eq_self {text : List Char} (ends : text.getLast?.any isBlank = false) :
    trimEnd text = text := by
  refine List.rdropWhile_eq_self_iff.2 fun nonempty => ?_
  rw [List.getLast?_eq_getLast_of_ne_nil nonempty] at ends
  simpa using ends

theorem head?_trimStart (text : List Char) : (trimStart text).head?.any isBlank = false := by
  induction text with
  | nil => rfl
  | cons c rest inductionHypothesis =>
      by_cases blank : isBlank c = true
      · simpa [trimStart, blank] using inductionHypothesis
      · simp [trimStart, blank]

theorem trimStart_eq_self {text : List Char} (starts : text.head?.any isBlank = false) :
    trimStart text = text := by
  cases text with
  | nil => rfl
  | cons c rest =>
      have notBlank : isBlank c = false := by simpa using starts
      simp [trimStart, notBlank]

theorem mem_trim {text : List Char} {c : Char} (member : c ∈ trim text) : c ∈ text :=
  (List.dropWhile_sublist isBlank).subset ((trimEnd_isPrefix _).subset member)

theorem isNormal_trim {text : List Char} (spaced : IsSpaced text) : IsNormal (trim text) := by
  have startSpaced : IsSpaced (trimStart text) := by
    obtain ⟨dropped, whole⟩ := List.dropWhile_suffix isBlank (l := text)
    exact IsSpaced.of_append_right dropped (by rw [trimStart, whole]; exact spaced)
  obtain ⟨dropped, whole⟩ := trimEnd_isPrefix (trimStart text)
  refine ⟨IsSpaced.of_append_left dropped ?_, ?_, getLast?_trimEnd _⟩
  · rw [trim, whole]
    exact startSpaced
  · have starts := head?_trimStart text
    rw [← whole] at starts
    rw [trim]
    cases trimmed : trimEnd (trimStart text) with
    | nil => rfl
    | cons first rest => simpa [trimmed] using starts

/-! ## Normal forms -/

theorem isNormal_normalizeChars (fragments : List (List Char)) :
    IsNormal (normalizeChars fragments) := isNormal_trim (isSpaced_collapse _)

@[simp] theorem joinSpaced_singleton (text : List Char) : joinSpaced [text] = text := by
  simp [joinSpaced]

theorem normalizeChars_eq_self {text : List Char} (normal : IsNormal text) :
    normalizeChars [text] = text := by
  rw [normalizeChars, joinSpaced_singleton, collapse_eq_self normal.spaced, trim,
    trimStart_eq_self normal.starts, trimEnd_eq_self normal.ends]

/-- A normal form is its own normal form. -/
theorem normalizeChars_normalizeChars (fragments : List (List Char)) :
    normalizeChars [normalizeChars fragments] = normalizeChars fragments :=
  normalizeChars_eq_self (isNormal_normalizeChars fragments)

/-- A normal form holds no character besides spaces that its text does not hold. -/
theorem mem_normalizeChars {text : List Char} {c : Char} (member : c ∈ normalizeChars [text]) :
    c ∈ text ∨ c = ' ' := by
  rw [normalizeChars, joinSpaced_singleton] at member
  exact mem_collapse (mem_trim member)

end ShadowIndex.Text
