import Mathlib.Data.List.Infix
import ShadowIndex.Proofs.Text.Normal

/-!
Contract: the words of a text, and its normal form as the join of them.

Owns:
- how runs of blanks are collapsed, and ends trimmed, piece by piece;
- `IsToken`, the maximal runs without a blank, which are the `words` (`mem_words_iff`);
- the normal form joins the words of all fragments (`normalizeChars_eq`);
- what stands in a text stands, in normal form, in the normal form of the text
  (`normalizeChars_infix`), and what holds no space stands in joined pieces exactly where it
  stands in one of them (`infix_joinSpaced_iff`).

Does not own: case folding, or where fragments come from.
-/

set_option autoImplicit false

namespace ShadowIndex.Text

/-! ## Collapsing piece by piece -/

theorem collapse_solid {c : Char} (rest : List Char) (solid : isBlank c = false) :
    collapse (c :: rest) = c :: collapse rest := by
  simp [collapse, solid]

theorem collapse_blank {c : Char} (rest : List Char) (blank : isBlank c = true) :
    collapse (c :: rest) =
      if rest.head?.any isBlank then collapse rest else ' ' :: collapse rest := by
  simp [collapse, blank]

theorem collapse_eq_nil_iff (text : List Char) : collapse text = [] ↔ text = [] := by
  induction text with
  | nil => simp [collapse]
  | cons c rest inductionHypothesis =>
      simp only [collapse]
      split
      · split
        · rename_i next
          cases rest with
          | nil => simp at next
          | cons d more => simpa using inductionHypothesis
        · simp
      · simp

/-- Two texts collapse apart unless a run of blanks reaches from one into the other. -/
theorem collapse_append {text rest : List Char}
    (apart : text.getLast?.any isBlank = false ∨ rest.head?.any isBlank = false) :
    collapse (text ++ rest) = collapse text ++ collapse rest := by
  induction text with
  | nil => rfl
  | cons c others inductionHypothesis =>
      by_cases blank : isBlank c = true
      · cases others with
        | nil =>
            have restSolid : rest.head?.any isBlank = false := by simpa [blank] using apart
            simp [collapse, blank, restSolid]
        | cons d more =>
            rw [List.cons_append, collapse_blank _ blank, collapse_blank _ blank,
              inductionHypothesis (by simpa using apart), List.cons_append, List.head?_cons,
              List.head?_cons]
            split <;> rfl
      · have solid : isBlank c = false := by simpa using blank
        have othersApart : others.getLast?.any isBlank = false ∨
            rest.head?.any isBlank = false := by
          cases others with
          | nil => exact Or.inl rfl
          | cons d more => simpa using apart
        rw [List.cons_append, collapse_solid _ solid, collapse_solid _ solid,
          inductionHypothesis othersApart, List.cons_append]

/-! ## Trimming and collapsing -/

theorem trimStart_blank {c : Char} (rest : List Char) (blank : isBlank c = true) :
    trimStart (c :: rest) = trimStart rest := by
  simp [trimStart, blank]

theorem trimEnd_cons (c : Char) (rest : List Char) :
    trimEnd (c :: rest) =
      if isBlank c && (trimEnd rest).isEmpty then [] else c :: trimEnd rest := by
  simp only [trimEnd, List.reverse_cons, List.dropWhile_append, List.isEmpty_reverse]
  by_cases empty : (rest.reverse.dropWhile isBlank).isEmpty = true
  · rw [if_pos empty, empty, List.isEmpty_iff.1 empty, Bool.and_true, List.dropWhile_cons]
    split <;> rfl
  · simp [empty]

theorem trimEnd_solid {c : Char} (rest : List Char) (solid : isBlank c = false) :
    trimEnd (c :: rest) = c :: trimEnd rest := by
  simp [trimEnd_cons, solid]

theorem trimEnd_cons_of_ne_nil (c : Char) {rest : List Char} (stays : trimEnd rest ≠ []) :
    trimEnd (c :: rest) = c :: trimEnd rest := by
  simp [trimEnd_cons, stays]

theorem head?_trimEnd {text : List Char} (nonempty : trimEnd text ≠ []) :
    (trimEnd text).head? = text.head? := by
  cases text with
  | nil => rfl
  | cons c rest =>
      rw [trimEnd_cons] at nonempty ⊢
      split
      · rename_i gone
        rw [if_pos gone] at nonempty
        exact absurd rfl nonempty
      · rfl

theorem trimStart_collapse (text : List Char) :
    trimStart (collapse text) = collapse (trimStart text) := by
  induction text with
  | nil => rfl
  | cons c rest inductionHypothesis =>
      by_cases blank : isBlank c = true
      · rw [trimStart_blank _ blank, collapse_blank _ blank, ← inductionHypothesis]
        split
        · rfl
        · exact trimStart_blank _ isBlank_space
      · have solid : isBlank c = false := by simpa using blank
        have kept (text : List Char) : trimStart (c :: text) = c :: text :=
          trimStart_eq_self (by simp [solid])
        rw [collapse_solid _ solid, kept, kept, collapse_solid _ solid]

theorem trimEnd_collapse (text : List Char) :
    trimEnd (collapse text) = collapse (trimEnd text) := by
  induction text with
  | nil => rfl
  | cons c rest inductionHypothesis =>
      by_cases blank : isBlank c = true
      · by_cases gone : trimEnd rest = []
        · have restGone : trimEnd (collapse rest) = [] := by
            rw [inductionHypothesis, gone]
            rfl
          have allGone : trimEnd (c :: rest) = [] := by simp [trimEnd_cons, blank, gone]
          rw [allGone, collapse_blank _ blank]
          split
          · exact restGone
          · simp [trimEnd_cons, restGone, isBlank_space, collapse]
        · have restStays : trimEnd (collapse rest) ≠ [] := by
            rwa [inductionHypothesis, Ne, collapse_eq_nil_iff]
          rw [trimEnd_cons_of_ne_nil c gone, collapse_blank _ blank, collapse_blank _ blank,
            head?_trimEnd gone, ← inductionHypothesis]
          split
          · rfl
          · exact trimEnd_cons_of_ne_nil ' ' restStays
      · have solid : isBlank c = false := by simpa using blank
        rw [collapse_solid _ solid, trimEnd_solid _ solid, trimEnd_solid _ solid,
          collapse_solid _ solid, inductionHypothesis]

/-- It makes no difference whether the ends are trimmed before or after runs are collapsed. -/
theorem trim_collapse (text : List Char) : trim (collapse text) = collapse (trim text) := by
  rw [trim, trimStart_collapse, trimEnd_collapse, trim]

theorem normalizeChars_singleton (text : List Char) :
    normalizeChars [text] = collapse (trim text) := by
  rw [normalizeChars, joinSpaced_singleton, trim_collapse]

theorem normalizeChars_collapse (text : List Char) :
    normalizeChars [collapse text] = normalizeChars [text] := by
  rw [normalizeChars, normalizeChars, joinSpaced_singleton, joinSpaced_singleton,
    collapse_eq_self (isSpaced_collapse text)]

/-! ## Words piece by piece -/

theorem words_blank {c : Char} (rest : List Char) (blank : isBlank c = true) :
    words (c :: rest) = words rest := by
  simp [words, blank]

/-- A character in front of a blank is a word. -/
theorem words_solid_blank {c : Char} {rest : List Char} (solid : isBlank c = false)
    (ends : rest.head?.all isBlank = true) : words (c :: rest) = [c] :: words rest := by
  cases rest with
  | nil => simp [words, solid]
  | cons d more =>
      have blank : isBlank d = true := by simpa using ends
      rw [words.eq_def]
      cases found : words (d :: more) with
      | nil => simp [solid, found]
      | cons word others => simp [solid, found, blank]

/-- A text that starts without a blank starts with a word, and a character in front belongs to
it. -/
theorem exists_words_solid {d : Char} (rest : List Char) (solid : isBlank d = false) :
    ∃ word others, words (d :: rest) = word :: others ∧
      ∀ {c : Char}, isBlank c = false → words (c :: d :: rest) = (c :: word) :: others := by
  have starts : ∃ word others, words (d :: rest) = word :: others := by
    rw [words.eq_def]
    dsimp only
    rw [if_neg (by simp [solid])]
    split
    · split
      · exact ⟨_, _, rfl⟩
      · exact ⟨_, _, rfl⟩
    · exact ⟨_, _, rfl⟩
  obtain ⟨word, others, found⟩ := starts
  refine ⟨word, others, found, fun {c} frontSolid => ?_⟩
  rw [words.eq_def]
  simp [frontSolid, found, solid]

/-- Two texts have the words of each, if a blank stands where they meet. -/
theorem words_append {text rest : List Char}
    (cut : text.getLast?.all isBlank = true ∨ rest.head?.all isBlank = true) :
    words (text ++ rest) = words text ++ words rest := by
  induction text with
  | nil => rfl
  | cons c others inductionHypothesis =>
      by_cases blank : isBlank c = true
      · have othersCut : others.getLast?.all isBlank = true ∨
            rest.head?.all isBlank = true := by
          cases others with
          | nil => exact Or.inl rfl
          | cons d more => simpa using cut
        rw [List.cons_append, words_blank _ blank, words_blank _ blank,
          inductionHypothesis othersCut]
      · have solid : isBlank c = false := by simpa using blank
        cases others with
        | nil =>
            have ends : rest.head?.all isBlank = true := by simpa [solid] using cut
            rw [List.singleton_append, words_solid_blank solid ends,
              words_solid_blank solid rfl]
            rfl
        | cons d more =>
            have split := inductionHypothesis (by simpa using cut)
            by_cases nextBlank : isBlank d = true
            · rw [List.cons_append, words_solid_blank solid (by simpa using nextBlank),
                words_solid_blank solid (by simpa using nextBlank), split, List.cons_append]
            · have nextSolid : isBlank d = false := by simpa using nextBlank
              obtain ⟨word, after, found, front⟩ := exists_words_solid more nextSolid
              obtain ⟨wholeWord, wholeAfter, wholeFound, wholeFront⟩ :=
                exists_words_solid (more ++ rest) nextSolid
              rw [List.cons_append, wholeFound, found, List.cons_append, List.cons.injEq] at split
              rw [List.cons_append, List.cons_append, wholeFront solid, front solid, split.1,
                split.2, List.cons_append]

theorem words_of_solid {word : List Char} (nonempty : word ≠ [])
    (solid : ∀ c ∈ word, isBlank c = false) : words word = [word] := by
  induction word with
  | nil => exact absurd rfl nonempty
  | cons c rest inductionHypothesis =>
      have first := solid c List.mem_cons_self
      cases rest with
      | nil => exact words_solid_blank first rfl
      | cons d more =>
          have next := solid d (by simp)
          obtain ⟨word, others, found, front⟩ := exists_words_solid more next
          have whole := inductionHypothesis (by simp) fun e member =>
            solid e (List.mem_cons_of_mem c member)
          rw [found, List.cons.injEq] at whole
          rw [front first, whole.1, whole.2]

theorem words_of_blank {gap : List Char} (blank : ∀ c ∈ gap, isBlank c = true) :
    words gap = [] := by
  induction gap with
  | nil => rfl
  | cons c rest inductionHypothesis =>
      rw [words_blank _ (blank c List.mem_cons_self)]
      exact inductionHypothesis fun d member => blank d (List.mem_cons_of_mem c member)

/-- A run without blanks is the first word of a text, if the text goes on with a blank. -/
theorem words_run {run rest : List Char} (nonempty : run ≠ [])
    (solid : ∀ c ∈ run, isBlank c = false) (ends : rest.head?.all isBlank = true) :
    words (run ++ rest) = run :: words rest := by
  rw [words_append (Or.inr ends), words_of_solid nonempty solid, List.singleton_append]

theorem solid_of_mem_takeWhile {text : List Char} {c : Char}
    (member : c ∈ text.takeWhile fun c => !isBlank c) : isBlank c = false := by
  simpa using List.mem_takeWhile_imp member

theorem head?_dropWhile_solid (text : List Char) :
    (text.dropWhile fun c => !isBlank c).head?.all isBlank = true := by
  have stops := List.head?_dropWhile_not (fun c => !isBlank c) text
  cases found : (text.dropWhile fun c => !isBlank c).head? with
  | none => rfl
  | some c => simpa [found] using stops

/-- A run of characters that are not blank, with a blank or an end of the text on both sides. -/
structure IsToken (text token : List Char) : Prop where
  nonempty : token ≠ []
  solid : ∀ c ∈ token, isBlank c = false
  stands : ∃ before after, text = before ++ token ++ after ∧
    before.getLast?.all isBlank = true ∧ after.head?.all isBlank = true

/-- Text in front of a text leaves its tokens, if a blank stands where they meet. -/
theorem IsToken.append_left {front text token : List Char} (isToken : IsToken text token)
    (cut : front.getLast?.all isBlank = true ∨ text.head?.all isBlank = true) :
    IsToken (front ++ text) token := by
  obtain ⟨nonempty, solid, before, after, rfl, starts, ends⟩ := isToken
  refine ⟨nonempty, solid, front ++ before, after, by simp, ?_, ends⟩
  cases before with
  | nil =>
      rw [List.append_nil]
      refine cut.resolve_right fun tokenBlank => ?_
      obtain ⟨c, more, rfl⟩ := List.exists_cons_of_ne_nil nonempty
      simp [solid c List.mem_cons_self] at tokenBlank
  | cons c more =>
      rw [List.getLast?_append_of_ne_nil _ (by simp)]
      exact starts

/-- A text that starts without a blank starts with a run of such characters. -/
theorem exists_run_append {c : Char} (rest : List Char) (solid : isBlank c = false) :
    ∃ run behind, c :: rest = run ++ behind ∧ run ≠ [] ∧ (∀ d ∈ run, isBlank d = false) ∧
      behind.head?.all isBlank = true :=
  ⟨(c :: rest).takeWhile fun c => !isBlank c, (c :: rest).dropWhile fun c => !isBlank c,
    List.takeWhile_append_dropWhile.symm, by simp [solid],
    fun _ member => solid_of_mem_takeWhile member, head?_dropWhile_solid _⟩

theorem isToken_of_mem_words (text : List Char) {word : List Char} (member : word ∈ words text) :
    IsToken text word := by
  match text with
  | [] => simp [words] at member
  | c :: rest =>
      by_cases blank : isBlank c = true
      · rw [words_blank _ blank] at member
        rw [← List.singleton_append]
        exact (isToken_of_mem_words rest member).append_left (Or.inl (by simpa using blank))
      · obtain ⟨run, behind, whole, nonempty, solid, ends⟩ :=
          exists_run_append rest (by simpa using blank)
        have shorter : behind.length < (c :: rest).length := by
          have positive := List.length_pos_iff.2 nonempty
          rw [whole, List.length_append]
          omega
        rw [whole, words_run nonempty solid ends] at member
        rw [whole]
        rcases List.mem_cons.1 member with rfl | later
        · exact ⟨nonempty, solid, [], behind, by simp, rfl, ends⟩
        · exact (isToken_of_mem_words behind later).append_left (Or.inr ends)
termination_by text.length
decreasing_by
  · simp
  · exact shorter

/-- The words of a text are its tokens. -/
theorem mem_words_iff (text word : List Char) : word ∈ words text ↔ IsToken text word := by
  constructor
  · exact isToken_of_mem_words text
  · rintro ⟨nonempty, solid, before, after, rfl, starts, ends⟩
    rw [List.append_assoc, words_append (Or.inl starts), words_run nonempty solid ends]
    simp

/-! ## Joined texts -/

theorem joinSpaced_cons (text : List Char) {rest : List (List Char)} (nonempty : rest ≠ []) :
    joinSpaced (text :: rest) = text ++ ' ' :: joinSpaced rest := by
  obtain ⟨next, others, rfl⟩ := List.exists_cons_of_ne_nil nonempty
  simp [joinSpaced, List.intercalate_cons_cons]

/-- The words of joined texts are those of each text, in order. -/
theorem words_joinSpaced (texts : List (List Char)) :
    words (joinSpaced texts) = texts.flatMap words := by
  induction texts with
  | nil => rfl
  | cons text rest inductionHypothesis =>
      by_cases last : rest = []
      · subst last
        simp
      · rw [joinSpaced_cons text last, words_append (Or.inr (by simp [isBlank_space])),
          words_blank _ isBlank_space, inductionHypothesis, List.flatMap_cons]

/-- What holds no space and stands in joined texts stands in one of them. -/
theorem infix_joinSpaced_iff {piece : List Char} (nonempty : piece ≠ []) (noSpace : ' ' ∉ piece)
    (texts : List (List Char)) :
    piece <:+: joinSpaced texts ↔ ∃ text ∈ texts, piece <:+: text := by
  induction texts with
  | nil => simp [joinSpaced, nonempty]
  | cons text rest inductionHypothesis =>
      by_cases last : rest = []
      · subst last
        simp
      · -- What reaches over the space between two texts would hold it.
        have atSpace {front : List Char} (part : front ⊆ piece)
            (stands : front <+: ' ' :: joinSpaced rest) : front = [] := by
          cases front with
          | nil => rfl
          | cons c others =>
              obtain rfl := (List.cons_prefix_cons.1 stands).1
              exact absurd (part List.mem_cons_self) noSpace
        rw [joinSpaced_cons text last, List.infix_append_iff, List.infix_cons_iff,
          inductionHypothesis]
        constructor
        · rintro (inFirst | (atFront | ⟨other, member, stands⟩) | ⟨front, back, rfl, ends, starts⟩)
          · exact ⟨text, List.mem_cons_self, inFirst⟩
          · exact absurd (atSpace (List.Subset.refl _) atFront) nonempty
          · exact ⟨other, List.mem_cons_of_mem _ member, stands⟩
          · obtain rfl := atSpace (List.subset_append_right _ _) starts
            exact ⟨text, List.mem_cons_self, by simpa using ends.isInfix⟩
        · rintro ⟨other, member, stands⟩
          rcases List.mem_cons.1 member with rfl | later
          · exact Or.inl stands
          · exact Or.inr (Or.inl (Or.inr ⟨other, later, stands⟩))

/-! ## The normal form -/

theorem head?_collapse_all {text : List Char} (starts : text.head?.all isBlank = true) :
    (collapse text).head?.all isBlank = true := by
  induction text with
  | nil => rfl
  | cons c rest inductionHypothesis =>
      have blank : isBlank c = true := by simpa using starts
      rw [collapse_blank _ blank]
      split
      · rename_i next
        refine inductionHypothesis ?_
        cases rest with
        | nil => rfl
        | cons d more => simpa using next
      · simp [isBlank_space]

theorem words_collapse (text : List Char) : words (collapse text) = words text := by
  induction text with
  | nil => rfl
  | cons c rest inductionHypothesis =>
      by_cases blank : isBlank c = true
      · rw [collapse_blank _ blank, words_blank _ blank, ← inductionHypothesis]
        split
        · rfl
        · exact words_blank _ isBlank_space
      · have solid : isBlank c = false := by simpa using blank
        rw [collapse_solid _ solid]
        cases rest with
        | nil => rfl
        | cons d more =>
            by_cases nextBlank : isBlank d = true
            · have ends : (collapse (d :: more)).head?.all isBlank = true :=
                head?_collapse_all (by simpa using nextBlank)
              rw [words_solid_blank solid ends, words_solid_blank solid (by simpa using nextBlank),
                inductionHypothesis]
            · have nextSolid : isBlank d = false := by simpa using nextBlank
              obtain ⟨word, others, found, front⟩ := exists_words_solid more nextSolid
              obtain ⟨collapsedWord, collapsedOthers, collapsedFound, collapsedFront⟩ :=
                exists_words_solid (collapse more) nextSolid
              rw [collapse_solid _ nextSolid, collapsedFound, found, List.cons.injEq]
                at inductionHypothesis
              rw [collapse_solid _ nextSolid, collapsedFront solid, front solid,
                inductionHypothesis.1, inductionHypothesis.2]

theorem words_trimStart (text : List Char) : words (trimStart text) = words text := by
  induction text with
  | nil => rfl
  | cons c rest inductionHypothesis =>
      by_cases blank : isBlank c = true
      · rw [trimStart_blank _ blank, words_blank _ blank, inductionHypothesis]
      · rw [trimStart_eq_self (by simpa using blank)]

theorem words_trimEnd (text : List Char) : words (trimEnd text) = words text := by
  have whole : trimEnd text ++ text.rtakeWhile isBlank = text :=
    List.rdropWhile_append_rtakeWhile
  have gap : ∀ c ∈ text.rtakeWhile isBlank, isBlank c = true :=
    fun c member => List.mem_rtakeWhile_imp member
  have ends : (text.rtakeWhile isBlank).head?.all isBlank = true := by
    cases found : text.rtakeWhile isBlank with
    | nil => rfl
    | cons c rest => simpa using gap c (by simp [found])
  calc words (trimEnd text)
      = words (trimEnd text) ++ words (text.rtakeWhile isBlank) := by
        rw [words_of_blank gap, List.append_nil]
    _ = words (trimEnd text ++ text.rtakeWhile isBlank) := (words_append (Or.inr ends)).symm
    _ = words text := by rw [whole]

/-- A text with single spaces, from its first word on, joins its words. -/
theorem joinSpaced_words {text : List Char} (spaced : IsSpaced text)
    (ends : text.getLast?.any isBlank = false) : joinSpaced (words text) = trimStart text := by
  induction text with
  | nil => rfl
  | cons c rest inductionHypothesis =>
      obtain ⟨single, restSpaced⟩ := spaced
      have restEnds : rest.getLast?.any isBlank = false := by
        cases rest with
        | nil => rfl
        | cons d more => simpa using ends
      have joined := inductionHypothesis restSpaced restEnds
      by_cases blank : isBlank c = true
      · rw [words_blank _ blank, trimStart_blank _ blank, joined]
      · have solid : isBlank c = false := by simpa using blank
        rw [trimStart_eq_self (by simp [solid])]
        cases rest with
        | nil => simp [words, solid]
        | cons d more =>
            by_cases nextBlank : isBlank d = true
            · -- The blank is a single space, and a word stands behind it.
              obtain ⟨rfl, moreSolid⟩ := restSpaced.1 nextBlank
              rw [trimStart_blank _ nextBlank, trimStart_eq_self moreSolid] at joined
              have nonempty : words (' ' :: more) ≠ [] := by
                intro none
                rw [none] at joined
                have isEmpty : more = [] := by simpa [joinSpaced] using joined.symm
                simp [isEmpty, isBlank_space] at restEnds
              rw [words_solid_blank solid (by simp [isBlank_space]), joinSpaced_cons _ nonempty,
                joined, List.singleton_append]
            · have nextSolid : isBlank d = false := by simpa using nextBlank
              obtain ⟨word, others, found, front⟩ := exists_words_solid more nextSolid
              rw [trimStart_eq_self (by simp [nextSolid]), found] at joined
              rw [front solid, ← joined]
              cases others with
              | nil => simp
              | cons next last => simp [joinSpaced_cons]

/-- The normal form of fragments joins the words of all fragments. -/
theorem normalizeChars_eq (fragments : List (List Char)) :
    normalizeChars fragments = joinSpaced (fragments.flatMap words) := by
  have normal := isNormal_normalizeChars fragments
  calc normalizeChars fragments = trimStart (normalizeChars fragments) :=
        (trimStart_eq_self normal.starts).symm
    _ = joinSpaced (words (normalizeChars fragments)) :=
        (joinSpaced_words normal.spaced normal.ends).symm
    _ = joinSpaced (words (joinSpaced fragments)) := by
        rw [normalizeChars, trim, words_trimEnd, words_trimStart, words_collapse]
    _ = joinSpaced (fragments.flatMap words) := by rw [words_joinSpaced]

/-! ## Pieces of a text -/

theorem exists_trimStart_append (before : List Char) {rest : List Char}
    (starts : rest.head?.any isBlank = false) :
    ∃ kept, trimStart (before ++ rest) = kept ++ rest := by
  induction before with
  | nil => exact ⟨[], trimStart_eq_self starts⟩
  | cons c others inductionHypothesis =>
      by_cases blank : isBlank c = true
      · rw [List.cons_append, trimStart_blank _ blank]
        exact inductionHypothesis
      · exact ⟨c :: others, trimStart_eq_self (by simpa using blank)⟩

theorem exists_trimEnd_append {text : List Char} (ends : text.getLast?.any isBlank = false)
    (after : List Char) : ∃ kept, trimEnd (text ++ after) = text ++ kept := by
  have starts : text.reverse.head?.any isBlank = false := by rwa [List.head?_reverse]
  obtain ⟨kept, same⟩ := exists_trimStart_append after.reverse starts
  refine ⟨kept.reverse, ?_⟩
  rw [trimEnd, List.reverse_append]
  show (trimStart (after.reverse ++ text.reverse)).reverse = _
  rw [same, List.reverse_append, List.reverse_reverse]

/-- Trimming a text leaves every piece of it that neither starts nor ends with a blank. -/
theorem infix_trim {piece text : List Char} (starts : piece.head?.any isBlank = false)
    (ends : piece.getLast?.any isBlank = false) (stands : piece <:+: text) :
    piece <:+: trim text := by
  by_cases empty : piece = []
  · rw [empty]
    exact List.nil_infix
  · obtain ⟨before, after, rfl⟩ := stands
    have restStarts : (piece ++ after).head?.any isBlank = false := by
      rwa [List.head?_append_of_ne_nil _ empty]
    obtain ⟨front, startKept⟩ := exists_trimStart_append before restStarts
    have frontEnds : (front ++ piece).getLast?.any isBlank = false := by
      rwa [List.getLast?_append_of_ne_nil _ empty]
    obtain ⟨back, endKept⟩ := exists_trimEnd_append frontEnds after
    refine ⟨front, back, ?_⟩
    rw [trim, List.append_assoc before, startKept, ← List.append_assoc, endKept]

theorem head?_trim (text : List Char) : (trim text).head?.any isBlank = false := by
  by_cases empty : trim text = []
  · simp [empty]
  · rw [trim, head?_trimEnd empty]
    exact head?_trimStart text

theorem trim_isInfix (text : List Char) : trim text <:+: text :=
  (trimEnd_isPrefix _).isInfix.trans (List.dropWhile_suffix isBlank).isInfix

/-- Collapsing a text collapses every piece of it that neither starts nor ends with a blank. -/
theorem infix_collapse {piece text : List Char} (starts : piece.head?.any isBlank = false)
    (ends : piece.getLast?.any isBlank = false) (stands : piece <:+: text) :
    collapse piece <:+: collapse text := by
  by_cases empty : piece = []
  · rw [empty]
    exact List.nil_infix
  · obtain ⟨before, after, rfl⟩ := stands
    have frontEnds : (before ++ piece).getLast?.any isBlank = false := by
      rwa [List.getLast?_append_of_ne_nil _ empty]
    exact ⟨collapse before, collapse after, by
      rw [collapse_append (Or.inl frontEnds), collapse_append (Or.inr starts)]⟩

/-- What stands in joined fragments, cut anywhere, stands in normal form in the normal form of the
fragments. -/
theorem normalizeChars_infix {piece : List Char} {fragments : List (List Char)}
    (stands : piece <:+: joinSpaced fragments) :
    normalizeChars [piece] <:+: normalizeChars fragments := by
  have normal := isNormal_normalizeChars [piece]
  refine infix_trim normal.starts normal.ends ?_
  rw [normalizeChars_singleton]
  exact infix_collapse (head?_trim piece) (getLast?_trimEnd _) ((trim_isInfix piece).trans stands)

end ShadowIndex.Text
