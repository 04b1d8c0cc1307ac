import ShadowIndex.Proofs.Text.Words

/-!
Contract: normal forms as joins of the words that blanks delimit.

Owns:
- `Delimits`, what it is for words to be all words of a text, in order; there is one such list
  (`delimits_iff`);
- a normal form has the words of its fragments and no others (`words_normalizeChars`);
- the laws of the normal form (`normalize_joins_words`).

Does not own: where fragments come from.
-/

set_option autoImplicit false

namespace ShadowIndex.Text

/-- Words stand in a text with blanks around them: in front of each there may be blanks, a blank or
the end of the text comes behind it, and behind the last one there are blanks only. -/
inductive Delimits : List Char → List (List Char) → Prop where
  | blank {gap : List Char} (blank : ∀ c ∈ gap, isBlank c = true) : Delimits gap []
  | word {gap word rest : List Char} {others : List (List Char)}
      (blank : ∀ c ∈ gap, isBlank c = true)
      (nonempty : word ≠ [])
      (solid : ∀ c ∈ word, isBlank c = false)
      (ends : rest.head?.all isBlank = true)
      (delimits : Delimits rest others) :
      Delimits (gap ++ (word ++ rest)) (word :: others)

theorem words_gap {gap : List Char} (blank : ∀ c ∈ gap, isBlank c = true) (rest : List Char) :
    words (gap ++ rest) = words rest := by
  have cut : gap.getLast?.all isBlank = true := by
    cases last : gap.getLast? with
    | none => rfl
    | some c => exact blank c (List.mem_of_getLast? last)
  rw [words_append (Or.inl cut), words_of_blank blank, List.nil_append]

/-- Words that delimit a text are the ones that are read from it. -/
theorem words_of_delimits {text : List Char} {listed : List (List Char)}
    (delimits : Delimits text listed) : words text = listed := by
  induction delimits with
  | blank blank => exact words_of_blank blank
  | word blank nonempty solid ends _ inductionHypothesis =>
      rw [words_gap blank, words_run nonempty solid ends, inductionHypothesis]

/-- Every text is delimited: behind its first blanks it ends, or a word starts, behind which less of
the text is left. -/
theorem exists_delimits (text : List Char) : ∃ listed, Delimits text listed := by
  have whole : text.takeWhile isBlank ++ text.dropWhile isBlank = text :=
    List.takeWhile_append_dropWhile
  have blank : ∀ c ∈ text.takeWhile isBlank, isBlank c = true :=
    fun c member => List.mem_takeWhile_imp member
  cases found : text.dropWhile isBlank with
  | nil =>
      rw [found, List.append_nil] at whole
      rw [← whole]
      exact ⟨[], .blank blank⟩
  | cons c rest =>
      have solid : isBlank c = false := by
        have starts := head?_trimStart text
        rw [trimStart, found] at starts
        simpa using starts
      obtain ⟨word, behind, split, nonempty, solidWord, ends⟩ := exists_run_append rest solid
      have shorter : behind.length < text.length := by
        have positive := List.length_pos_iff.2 nonempty
        rw [← whole, found, split, List.length_append, List.length_append]
        omega
      obtain ⟨others, delimits⟩ := exists_delimits behind
      rw [← whole, found, split]
      exact ⟨word :: others, .word blank nonempty solidWord ends delimits⟩
termination_by text.length

/-- A text has one list of words, and it is the one that is read from it. -/
theorem delimits_iff (text : List Char) (listed : List (List Char)) :
    Delimits text listed ↔ listed = words text := by
  constructor
  · exact fun delimits => (words_of_delimits delimits).symm
  · rintro rfl
    obtain ⟨listed, delimits⟩ := exists_delimits text
    rwa [words_of_delimits delimits]

/-! ## Normal forms -/

/-- The normal form has the words of the fragments, in order. -/
theorem words_normalizeChars (fragments : List (List Char)) :
    words (normalizeChars fragments) = fragments.flatMap words := by
  rw [normalizeChars, trim, words_trimEnd, words_trimStart, words_collapse, words_joinSpaced]

/-- Fragments can be brought into normal form in two parts. -/
theorem normalizeChars_append (fragments others : List (List Char)) :
    normalizeChars (fragments ++ others) =
      normalizeChars [normalizeChars fragments, normalizeChars others] := by
  have sameWords : [normalizeChars fragments, normalizeChars others].flatMap words =
      (fragments ++ others).flatMap words := by
    simp [words_normalizeChars]
  rw [normalizeChars_eq [normalizeChars fragments, _], sameWords, normalizeChars_eq]

/-- The normal form of texts joins all their words by single spaces. So it neither starts nor ends
with a blank, no two blanks of it stand side by side, and each is a space; it is its own normal
form, and can be made in parts; and what stands in a text stands, in normal form, in the normal form
of the text. -/
theorem normalize_joins_words (fragments others : List String) :
    (normalize fragments).toList = joinSpaced (fragments.flatMap fun text => words text.toList) ∧
      (∀ text listed, Delimits text listed ↔ listed = words text) ∧
      IsNormal (normalize fragments).toList ∧
      normalize [normalize fragments] = normalize fragments ∧
      normalize (fragments ++ others) = normalize [normalize fragments, normalize others] ∧
      ∀ piece text : String, piece.toList <:+: text.toList →
        (normalize [piece]).toList <:+: (normalize [text]).toList := by
  refine ⟨?_, delimits_iff, ?_, ?_, ?_, ?_⟩
  · rw [toList_normalize, normalizeChars_eq, List.flatMap_map]
  · rw [toList_normalize]
    exact isNormal_normalizeChars _
  · apply String.toList_injective
    simp only [toList_normalize, List.map_cons, List.map_nil]
    exact normalizeChars_normalizeChars _
  · apply String.toList_injective
    simp only [toList_normalize, List.map_append, List.map_cons, List.map_nil]
    exact normalizeChars_append _ _
  · intro piece text stands
    simp only [toList_normalize, List.map_cons, List.map_nil]
    apply normalizeChars_infix
    rwa [joinSpaced_singleton]

/-- A piece that is cut within a run of blanks, of fragments some of which hold no word. -/
theorem normalize_joins_words_shelf :
    " b \t".toList <:+: "a\n b \t\tc".toList ∧
      (normalize [" b \t"]).toList <:+: (normalize ["a\n b \t\tc"]).toList ∧
      (normalize [" a", "", "\t", "b\n\nc "]).toList = "a b c".toList := by
  have stands : " b \t".toList <:+: "a\n b \t\tc".toList := ⟨['a', '\n'], ['\t', 'c'], rfl⟩
  obtain ⟨joined, -, -, -, -, pieces⟩ := normalize_joins_words [" a", "", "\t", "b\n\nc "] []
  refine ⟨stands, pieces _ _ stands, ?_⟩
  rw [joined]
  decide +kernel

end ShadowIndex.Text
