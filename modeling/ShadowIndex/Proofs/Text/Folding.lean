import Mathlib.Data.List.Infix
import ShadowIndex.Proofs.Text.Normal
import ShadowIndex.Text.CaseFold
import ShadowIndex.Text.Quoted

/-!
Contract: case folding leaves what separates words and phrases where it stands.

Owns:
- `isSeparator`, blanks and the double quote, each of which folds to itself and comes out of no
  other character (`foldChar_of_isSeparator`, `eq_of_mem_foldChar`);
- the blanks of a folded text, and when it is spaced;
- `contains` as one folded text within another.

Does not own: how a text is split at its separators.
-/

set_option autoImplicit false

namespace ShadowIndex.Text

/-! ## Separators and the folding data -/

/-- The codes of what separates words and phrases: the double quote and all blanks. -/
def separatorRanges : List (Nat × Nat) := (0x22, 0x22) :: blankRanges

def isSeparator (c : Char) : Bool := inRanges separatorRanges c.toNat

theorem isSeparator_of_isBlank {c : Char} (blank : isBlank c = true) : isSeparator c = true := by
  simp only [isSeparator, inRanges, separatorRanges, List.any_cons, Bool.or_eq_true]
  exact Or.inr blank

theorem isSeparator_doubleQuote : isSeparator doubleQuote = true := by decide

/-- Whether the codes from `low` to `high` are outside of all ranges. -/
def clears (ranges : List (Nat × Nat)) (low high : Nat) : Bool :=
  ranges.all fun range => decide (high < range.1) || decide (range.2 < low)

theorem inRanges_eq_false_of_clears {ranges : List (Nat × Nat)} {low high code : Nat}
    (clear : clears ranges low high = true) (above : low ≤ code) (below : code ≤ high) :
    inRanges ranges code = false := by
  simp only [clears, List.all_eq_true, Bool.or_eq_true, decide_eq_true_eq] at clear
  simp only [inRanges, List.any_eq_false, Bool.and_eq_true, decide_eq_true_eq]
  intro range member
  have outside := clear range member
  omega

namespace CaseFold

/-- Whether a run neither takes a separator nor gives one. -/
def Run.isApart (run : Run) : Bool :=
  clears separatorRanges run.first run.last &&
    clears separatorRanges (run.image run.first) (run.image run.last)

theorem folds_apart : folds.all Run.isApart = true := by decide +kernel

theorem expansions_apart :
    (expansions.all fun row => !row.2.isEmpty &&
      (row.1 :: row.2).all fun code => !inRanges separatorRanges code) = true := by
  decide +kernel

/-- A run takes no separator, and what it gives is none. -/
theorem Run.apart_of_covers {run : Run} (member : run ∈ folds) {code : Nat}
    (covers : run.covers code = true) :
    inRanges separatorRanges code = false ∧
      inRanges separatorRanges (run.image code) = false := by
  have apart := List.all_eq_true.1 folds_apart run member
  simp only [isApart, Bool.and_eq_true] at apart
  simp only [Run.covers, Bool.and_eq_true, decide_eq_true_eq] at covers
  obtain ⟨⟨above, below⟩, -⟩ := covers
  refine ⟨inRanges_eq_false_of_clears apart.1 above below,
    inRanges_eq_false_of_clears apart.2 ?_ ?_⟩
  · simp only [Run.image]
    omega
  · simp only [Run.image]
    omega

theorem apart_of_expansion {row : Nat × List Nat} (member : row ∈ expansions) :
    row.2 ≠ [] ∧ ∀ code ∈ row.1 :: row.2, inRanges separatorRanges code = false := by
  have apart := List.all_eq_true.1 expansions_apart row member
  simpa using apart

end CaseFold

/-- A code that is no character stands for the null character, which separates nothing. -/
theorem isSeparator_ofNat {code : Nat} (apart : inRanges separatorRanges code = false) :
    isSeparator (Char.ofNat code) = false := by
  by_cases valid : code.isValidChar
  · rw [Char.ofNat, dif_pos valid]
    exact apart
  · rw [Char.ofNat, dif_neg valid]
    decide

/-! ## Foldings of characters -/

theorem foldChar_ne_nil (c : Char) : foldChar c ≠ [] := by
  unfold foldChar
  split
  · simp
  · split
    · rename_i row found
      simpa using (CaseFold.apart_of_expansion (List.mem_of_find?_eq_some found)).1
    · simp

/-- A separator folds to itself. -/
theorem foldChar_of_isSeparator {c : Char} (separator : isSeparator c = true) :
    foldChar c = [c] := by
  unfold foldChar
  split
  · rename_i run found
    have covers : run.covers c.toNat = true := by simpa using List.find?_some found
    have apart := (CaseFold.Run.apart_of_covers (List.mem_of_find?_eq_some found) covers).1
    exact absurd separator (Bool.eq_false_iff.1 apart)
  · split
    · rename_i row found
      have isCode : row.1 = c.toNat := by simpa using List.find?_some found
      have apart := (CaseFold.apart_of_expansion (List.mem_of_find?_eq_some found)).2 row.1
        List.mem_cons_self
      rw [isCode] at apart
      exact absurd separator (Bool.eq_false_iff.1 apart)
    · rfl

/-- No character but a separator itself folds to text with the separator in it. -/
theorem eq_of_mem_foldChar {c d : Char} (member : d ∈ foldChar c)
    (separator : isSeparator d = true) : d = c := by
  unfold foldChar at member
  split at member
  · rename_i run found
    have covers : run.covers c.toNat = true := by simpa using List.find?_some found
    have apart := (CaseFold.Run.apart_of_covers (List.mem_of_find?_eq_some found) covers).2
    rw [List.mem_singleton.1 member, isSeparator_ofNat apart] at separator
    cases separator
  · split at member
    · rename_i row found
      obtain ⟨code, isCode, rfl⟩ := List.mem_map.1 member
      have apart := (CaseFold.apart_of_expansion (List.mem_of_find?_eq_some found)).2 code
        (List.mem_cons_of_mem _ isCode)
      rw [isSeparator_ofNat apart] at separator
      cases separator
    · exact List.mem_singleton.1 member

theorem isBlank_of_mem_foldChar {c d : Char} (member : d ∈ foldChar c) :
    isBlank d = isBlank c := by
  rw [Bool.eq_iff_iff]
  constructor
  · intro blank
    rwa [← eq_of_mem_foldChar member (isSeparator_of_isBlank blank)]
  · intro blank
    rw [foldChar_of_isSeparator (isSeparator_of_isBlank blank)] at member
    rwa [List.mem_singleton.1 member]

/-! ## Foldings of texts -/

@[simp] theorem fold_cons (c : Char) (rest : List Char) :
    fold (c :: rest) = foldChar c ++ fold rest := rfl

/-- A folded text holds a separator exactly if the text does. -/
theorem mem_fold_iff {d : Char} (separator : isSeparator d = true) (text : List Char) :
    d ∈ fold text ↔ d ∈ text := by
  rw [fold, List.mem_flatMap]
  constructor
  · rintro ⟨c, member, folded⟩
    rwa [eq_of_mem_foldChar folded separator]
  · intro member
    exact ⟨d, member, by simp [foldChar_of_isSeparator separator]⟩

theorem fold_ne_nil {text : List Char} (nonempty : text ≠ []) : fold text ≠ [] := by
  cases text with
  | nil => exact absurd rfl nonempty
  | cons c rest => simp [foldChar_ne_nil]

/-- A folded text starts with a separator exactly if the text does. -/
theorem head?_fold_iff {d : Char} (separator : isSeparator d = true) (text : List Char) :
    (fold text).head? = some d ↔ text.head? = some d := by
  cases text with
  | nil => rfl
  | cons c rest =>
      obtain ⟨first, others, same⟩ := List.exists_cons_of_ne_nil (foldChar_ne_nil c)
      rw [fold_cons, same, List.cons_append, List.head?_cons, List.head?_cons, Option.some.injEq,
        Option.some.injEq]
      constructor
      · rintro rfl
        exact (eq_of_mem_foldChar (by simp [same]) separator).symm
      · rintro rfl
        rw [foldChar_of_isSeparator separator] at same
        exact (List.cons.inj same).1.symm

theorem head?_fold_any (text : List Char) :
    (fold text).head?.any isBlank = text.head?.any isBlank := by
  cases text with
  | nil => rfl
  | cons c rest =>
      obtain ⟨d, others, same⟩ := List.exists_cons_of_ne_nil (foldChar_ne_nil c)
      have blank : isBlank d = isBlank c := isBlank_of_mem_foldChar (by simp [same])
      simp [same, blank]

theorem isSpaced_append_of_solid {front rest : List Char}
    (solid : ∀ c ∈ front, isBlank c = false) : IsSpaced (front ++ rest) ↔ IsSpaced rest := by
  induction front with
  | nil => rfl
  | cons c others inductionHypothesis =>
      have notBlank := solid c List.mem_cons_self
      rw [List.cons_append, IsSpaced,
        inductionHypothesis fun d member => solid d (List.mem_cons_of_mem c member)]
      simp [notBlank]

/-- The blanks of a folded text are those of the text. -/
theorem isSpaced_fold_iff (text : List Char) : IsSpaced (fold text) ↔ IsSpaced text := by
  induction text with
  | nil => rfl
  | cons c rest inductionHypothesis =>
      by_cases blank : isBlank c = true
      · rw [fold_cons, foldChar_of_isSeparator (isSeparator_of_isBlank blank),
          List.singleton_append, IsSpaced, IsSpaced, head?_fold_any, inductionHypothesis]
      · have solid : isBlank c = false := by simpa using blank
        rw [fold_cons, isSpaced_append_of_solid fun d member => by
          rw [isBlank_of_mem_foldChar member, solid], inductionHypothesis, IsSpaced]
        simp [solid]

/-! ## One text within another -/

theorem occursIn_iff_infix (needle text : List Char) :
    occursIn needle text = true ↔ needle <:+: text := by
  rw [occursIn_iff]
  constructor
  · rintro ⟨before, after, same⟩
    exact ⟨before, after, same.symm⟩
  · rintro ⟨before, after, same⟩
    exact ⟨before, after, same.symm⟩

theorem contains_iff (haystack needle : String) :
    contains haystack needle = true ↔ fold needle.toList <:+: fold haystack.toList :=
  occursIn_iff_infix _ _

/-- What stands in a text is contained in it, whatever the case. -/
theorem contains_of_infix {haystack needle : String}
    (stands : needle.toList <:+: haystack.toList) : contains haystack needle = true :=
  (contains_iff haystack needle).2 (stands.flatMap foldChar)

/-- A text in which single spaces are the only blanks contains no text with other blanks. -/
theorem isSpaced_of_contains {haystack needle : String} (spaced : IsSpaced haystack.toList)
    (contained : contains haystack needle = true) : IsSpaced needle.toList := by
  obtain ⟨before, after, whole⟩ := (contains_iff haystack needle).1 contained
  rw [← isSpaced_fold_iff, ← whole] at spaced
  rw [← isSpaced_fold_iff]
  exact IsSpaced.of_append_right before (IsSpaced.of_append_left after spaced)

end ShadowIndex.Text
