import ShadowIndex.Text.CaseFold.Table

/-!
Contract: full case folding, and the test for a text within another that ignores case.

Owns:
- `foldChar`, the folding of one character, which may be several characters;
- `fold`, character by character: no normalization, no context;
- `contains`, the substring test of folded texts.

Does not own: the folding data, or what texts are searched.
-/

set_option autoImplicit false

namespace ShadowIndex.Text

namespace CaseFold

def Run.covers (run : Run) (code : Nat) : Bool :=
  decide (run.first ≤ code) && decide (code ≤ run.last) &&
    decide ((code - run.first) % run.stride = 0)

def Run.image (run : Run) (code : Nat) : Nat := ((code : Int) + run.distance).toNat

end CaseFold

/-- The folding of one character; a character outside the data folds to itself. -/
def foldChar (c : Char) : List Char :=
  match CaseFold.folds.find? (fun run => run.covers c.toNat) with
  | some run => [Char.ofNat (run.image c.toNat)]
  | none =>
      match CaseFold.expansions.find? (fun row => row.1 == c.toNat) with
      | some row => row.2.map Char.ofNat
      | none => [c]

def fold (text : List Char) : List Char := text.flatMap foldChar

def foldCase (text : String) : String := String.ofList (fold text.toList)

@[simp] theorem toList_foldCase (text : String) :
    (foldCase text).toList = fold text.toList := by
  simp [foldCase]

@[simp] theorem fold_append (left right : List Char) :
    fold (left ++ right) = fold left ++ fold right := by
  simp [fold]

/-- Whether `needle` stands somewhere in a text. -/
def occursIn (needle : List Char) : List Char → Bool
  | [] => needle.isEmpty
  | c :: rest => needle.isPrefixOf (c :: rest) || occursIn needle rest

/-- A text occurs exactly where the other splits around it. -/
theorem occursIn_iff (needle text : List Char) :
    occursIn needle text = true ↔ ∃ before after, text = before ++ needle ++ after := by
  induction text with
  | nil =>
      simp only [occursIn, List.isEmpty_iff]
      constructor
      · rintro rfl
        exact ⟨[], [], rfl⟩
      · rintro ⟨before, after, same⟩
        have parts := List.nil_eq_append_iff.1 same
        exact (List.append_eq_nil_iff.1 parts.1).2
  | cons c rest inductionHypothesis =>
      simp only [occursIn, Bool.or_eq_true, inductionHypothesis, List.isPrefixOf_iff_prefix]
      constructor
      · rintro (⟨after, same⟩ | ⟨before, after, same⟩)
        · exact ⟨[], after, by simp [same]⟩
        · exact ⟨c :: before, after, by simp [same]⟩
      · rintro ⟨before, after, same⟩
        cases before with
        | nil => exact Or.inl ⟨after, by simpa using same.symm⟩
        | cons head tail =>
            simp only [List.cons_append, List.cons.injEq] at same
            exact Or.inr ⟨tail, after, same.2⟩

/-- Whether `needle` stands in `haystack` when both are folded. -/
def contains (haystack needle : String) : Bool :=
  occursIn (fold needle.toList) (fold haystack.toList)

example : foldCase "Straße" = "strasse" := by decide +kernel
example : contains "ABRAHAM Lincoln" "m L" = true := by decide +kernel

end ShadowIndex.Text
