import ShadowIndex.Proofs.Query.Canonical

/-!
Contract: reading and writing queries are inverse to each other, on exactly the canonical lists.

Owns:
- the token that the written form of a term reads as, whatever may follow it;
- the tokens of a written query;
- `parse_render`, the round trip in both directions.

Does not own: which lists are canonical.
-/

set_option autoImplicit false

namespace ShadowIndex

open Text (isBlank doubleQuote)

namespace Token

open Term

/-! ## One token -/

theorem scan_solid {c : Char} (rest : List Char) (solid : isBlank c = false) :
    scan (c :: rest) = (readToken c rest).1 :: scan (readToken c rest).2 := by
  rw [scan, dif_pos solid]

theorem scan_blank {c : Char} (rest : List Char) (blank : isBlank c = true) :
    scan (c :: rest) = scan rest := by
  rw [scan, dif_neg (by simp [blank])]

/-- A token of a text without a leading quote ends at the first blank. -/
theorem scan_bare {text : List Char} (rest : List Char) (bare : IsBare text) :
    scan (text ++ rest) = (readBare (text ++ rest)).1 :: scan (readBare (text ++ rest)).2 := by
  obtain ⟨nonempty, solid, unquoted⟩ := bare
  cases text with
  | nil => exact absurd rfl nonempty
  | cons c more =>
      have different : c ≠ doubleQuote := by simpa using unquoted
      rw [List.cons_append, scan_solid _ (solid c (by simp)), readToken, if_neg different]

theorem takeWhile_solid {text rest : List Char} (solid : ∀ c ∈ text, isBlank c = false)
    (ends : rest.head?.all isBlank = true) :
    (text ++ rest).takeWhile (fun c => !isBlank c) = text := by
  rw [List.takeWhile_append_of_pos (fun c member => by simp [solid c member])]
  cases rest with
  | nil => simp
  | cons next others => simp [show isBlank next = true by simpa using ends]

theorem dropWhile_solid {text rest : List Char} (solid : ∀ c ∈ text, isBlank c = false)
    (ends : rest.head?.all isBlank = true) :
    (text ++ rest).dropWhile (fun c => !isBlank c) = rest := by
  rw [List.dropWhile_append_of_pos (fun c member => by simp [solid c member])]
  cases rest with
  | nil => simp
  | cons next others => simp [show isBlank next = true by simpa using ends]

theorem isBare_qualified {name value : List Char} (isName : IsFieldName name)
    (bare : IsBare value) : IsBare (name ++ ':' :: value) where
  nonempty := by simp
  solid := by
    intro c member
    rcases List.mem_append.1 member with inName | inRest
    · exact isName.solid c inName
    · rcases List.mem_cons.1 inRest with rfl | inValue
      · exact isBlank_colon
      · exact bare.solid c inValue
  unquoted := by
    rw [List.head?_append_of_ne_nil _ isName.nonempty]
    exact isName.unquoted

/-- A field name, a colon and a quote open a phrase. The token up to the first blank ends within
the phrase, which is read from behind its quote. -/
theorem readBare_quoted {name : List Char} (inner : List Char) (isName : IsFieldName name) :
    readBare (name ++ ':' :: doubleQuote :: inner) =
      match breakQuote inner with
      | some (inside, after) =>
          (.term (.qualified (String.ofList name) (phraseOf inside)), after)
      | none => (ofUnclosed (name ++ ':' :: doubleQuote :: inner), []) := by
  have token : (name ++ ':' :: doubleQuote :: inner).takeWhile (fun c => !isBlank c) =
      name ++ ':' :: doubleQuote :: inner.takeWhile fun c => !isBlank c := by
    rw [List.takeWhile_append_of_pos (fun c member => by simp [isName.solid c member])]
    simp [isBlank_colon, isBlank_doubleQuote]
  have split : splitQualifier (name ++ ':' :: doubleQuote :: inner.takeWhile fun c => !isBlank c) =
      some (name, doubleQuote :: inner.takeWhile fun c => !isBlank c) :=
    (splitQualifier_eq_some_iff _ _ _).2 ⟨rfl, isName.noColon, isName.nonempty, by simp⟩
  have behind : (name ++ ':' :: doubleQuote :: inner).drop (name.length + 2) = inner := by
    simp [List.drop_append]
  cases broken : breakQuote inner with
  | none => simp only [readBare, token, split, List.head?_cons, if_true, behind, broken]
  | some parts => simp only [readBare, token, split, List.head?_cons, if_true, behind, broken]

/-! ## Written terms -/

/-- The written form of a closed term reads as that term, at the end of a text or before a
blank. -/
theorem scan_render {term : Term} {rest : List Char} (closed : term.IsClosed)
    (ends : rest.head?.all isBlank = true) :
    scan (term.render.toList ++ rest) = .term term :: scan rest := by
  cases closed with
  | @word text bare unsplit =>
      have split := (splitQualifier_eq_none_iff _).2 unsplit
      show scan (text.toList ++ rest) = _
      rw [scan_bare rest bare]
      simp only [readBare, takeWhile_solid bare.solid ends, dropWhile_solid bare.solid ends, split,
        String.ofList_toList]
  | @phrase text nonempty phrase =>
      have written : (Term.plain (.phrase text)).render.toList ++ rest =
          doubleQuote :: (text.toList ++ doubleQuote :: rest) := by
        simp [Term.render, Literal.render, doubleQuote]
      have broken : breakQuote (text.toList ++ doubleQuote :: rest) = some (text.toList, rest) :=
        (breakQuote_eq_some_iff _ _ _).2 ⟨rfl, phrase.unquoted⟩
      have notEmpty : text.toList.isEmpty = false := by simpa using nonempty
      rw [written, scan_solid _ isBlank_doubleQuote]
      simp only [readToken, if_true, broken, ofQuoted, phraseOf, phrase.normal, notEmpty,
        Bool.false_eq_true, if_false, String.ofList_toList]
  | @fieldWord field text name bare =>
      have written : (Term.qualified field (.word text)).render.toList =
          field.toList ++ ':' :: text.toList := by
        simp [Term.render, Literal.render]
      have whole := isBare_qualified name bare
      have split : splitQualifier (field.toList ++ ':' :: text.toList) =
          some (field.toList, text.toList) :=
        (splitQualifier_eq_some_iff _ _ _).2 ⟨rfl, name.noColon, name.nonempty, bare.nonempty⟩
      rw [written, scan_bare rest whole]
      simp only [readBare, takeWhile_solid whole.solid ends, dropWhile_solid whole.solid ends,
        split, bare.unquoted, if_false, String.ofList_toList]
  | @fieldPhrase field text name phrase =>
      have written : (Term.qualified field (.phrase text)).render.toList ++ rest =
          field.toList ++ ':' :: doubleQuote :: (text.toList ++ doubleQuote :: rest) := by
        simp [Term.render, Literal.render, doubleQuote]
      have broken : breakQuote (text.toList ++ doubleQuote :: rest) = some (text.toList, rest) :=
        (breakQuote_eq_some_iff _ _ _).2 ⟨rfl, phrase.unquoted⟩
      rw [written, scan_bare _ name.toIsBare, readBare_quoted _ name]
      simp only [broken, phraseOf, phrase.normal, String.ofList_toList]

/-- A text whose quote is never closed reads as one word, blanks and all. -/
theorem scan_unclosed {text : List Char} (unclosed : IsUnclosedText text) :
    scan text = [.unclosed (String.ofList text)] := by
  obtain ⟨front, inside, opening, clean, whole, ends⟩ := unclosed
  have broken : breakQuote inside = none := (breakQuote_eq_none_iff _).2 clean
  have trimmed : ofUnclosed text = .unclosed (String.ofList text) := by
    rw [ofUnclosed, Text.trimEnd_eq_self ends]
  rcases opening with rfl | ⟨name, isName, rfl⟩
  · rw [whole, List.nil_append] at trimmed ⊢
    rw [scan_solid _ isBlank_doubleQuote]
    simp only [readToken, if_true, broken, trimmed, scan]
  · rw [whole, List.append_assoc, List.singleton_append] at trimmed ⊢
    rw [scan_bare _ isName.toIsBare, readBare_quoted _ isName]
    simp only [broken, trimmed, scan]

end Token

/-! ## Written queries -/

namespace Query

open Term

/-- A written query reads as its terms. The induction is on the list: every term but the last has a
space behind it, and only the last one may be unclosed. -/
theorem tokenize_render {terms : List Term} (shaped : WellShaped terms) :
    tokenize (Query.mk terms).render = terms := by
  simp only [tokenize, render]
  induction terms with
  | nil => simp [Token.scan]
  | cons term rest inductionHypothesis =>
      obtain ⟨first, restShaped⟩ := shaped
      cases rest with
      | nil =>
          rw [List.map_singleton, String.intercalate_singleton]
          rcases first with closed | ⟨-, ⟨unclosed⟩⟩
          · have read : Token.scan (term.render.toList ++ []) = .term term :: Token.scan [] :=
              Token.scan_render closed rfl
            rw [List.append_nil] at read
            simp [read, Token.scan, Token.term?]
          · rw [Term.render, Literal.render, Token.scan_unclosed unclosed]
            simp [Token.term?]
      | cons next others =>
          have closed : term.IsClosed := first.resolve_right fun last => by simp at last
          rw [List.map_cons, List.map_cons, String.intercalate_cons_cons, String.toList_append,
            String.toList_append, List.append_assoc, ← List.map_cons]
          have space : " ".toList = [' '] := rfl
          have kept : Token.term? (.term term) = some term := rfl
          rw [space, List.singleton_append, Token.scan_render closed (by simp [Text.isBlank_space]),
            Token.scan_blank _ Text.isBlank_space, List.filterMap_cons_some kept,
            inductionHypothesis restShaped]

/-- What a text denotes can be written and read back. Written lists read back as themselves exactly
if they are canonical. -/
theorem parse_render (text : String) (terms : List Term) :
    IsCanonical (parse text).terms ∧ parse (parse text).render = parse text ∧
      ((parse (Query.mk terms).render).terms = terms ↔ IsCanonical terms) := by
  have readsBack {terms : List Term} (canonical : IsCanonical terms) :
      parse (Query.mk terms).render = ⟨terms⟩ := by
    rw [parse, tokenize_render canonical.shaped, distinct_eq_self canonical.nodup]
  refine ⟨isCanonical_parse text, readsBack (isCanonical_parse text), ?_, ?_⟩
  · intro same
    rw [← same]
    exact isCanonical_parse _
  · intro canonical
    rw [readsBack canonical]

end Query

end ShadowIndex
