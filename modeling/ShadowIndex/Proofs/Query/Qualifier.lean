import ShadowIndex.Proofs.Query.RoundTrip

/-!
Contract: queries of one term, as they are typed.

Owns:
- the query that a quoted text denotes, and a field name in front of a word or a quoted text
  (`parse_quoted`, `parse_fieldWord`, `parse_fieldQuoted`);
- what stands in front of the colon of a term of a query is a field name (`isFieldName_of_mem`).

Does not own: which names fields have.
-/

set_option autoImplicit false

namespace ShadowIndex

open Text (isBlank doubleQuote)

instance (text : List Char) : Decidable (Term.IsBare text) :=
  decidable_of_iff (text ≠ [] ∧ text.all (fun c => !isBlank c) = true ∧
      text.head? ≠ some doubleQuote)
    ⟨fun ⟨nonempty, solid, unquoted⟩ => ⟨nonempty, by simpa using solid, unquoted⟩,
      fun bare => ⟨bare.nonempty, by simpa using bare.solid, bare.unquoted⟩⟩

namespace Token

open Term

theorem breakQuote_closed {inside : List Char} (clean : doubleQuote ∉ inside) :
    breakQuote (inside ++ [doubleQuote]) = some (inside, []) :=
  (breakQuote_eq_some_iff _ _ _).2 ⟨rfl, clean⟩

theorem scan_quoted {inside : List Char} (clean : doubleQuote ∉ inside) :
    scan (doubleQuote :: (inside ++ [doubleQuote])) = [ofQuoted inside] := by
  rw [scan_solid _ isBlank_doubleQuote]
  simp only [readToken, if_true, breakQuote_closed clean, scan]

theorem scan_fieldQuoted {name inside : List Char} (isName : IsFieldName name)
    (clean : doubleQuote ∉ inside) :
    scan (name ++ ':' :: doubleQuote :: (inside ++ [doubleQuote])) =
      [.term (.qualified (String.ofList name) (phraseOf inside))] := by
  rw [scan_bare _ isName.toIsBare, readBare_quoted _ isName]
  simp only [breakQuote_closed clean, scan]

end Token

namespace Query

open Term

/-- The query of a text between two quotes: its normal form, unless that is empty. -/
theorem parse_quoted {text : String} (clean : doubleQuote ∉ text.toList) :
    parse ("\"" ++ text ++ "\"") =
      ⟨if Text.normalize [text] = "" then [] else [.plain (.phrase (Text.normalize [text]))]⟩ := by
  have written : ("\"" ++ text ++ "\"").toList =
      doubleQuote :: (text.toList ++ [doubleQuote]) := by
    simp [doubleQuote]
  have normal : Text.normalize [text] = String.ofList (Text.normalizeChars [text.toList]) := rfl
  rw [parse, tokenize, written, Token.scan_quoted clean, Token.ofQuoted, Token.phraseOf, normal]
  by_cases empty : Text.normalizeChars [text.toList] = []
  · simp only [empty, List.isEmpty_nil, String.ofList_nil, if_true]
    rfl
  · simp [empty, Token.term?, distinct]

theorem parse_fieldWord {name word : String} (isName : IsFieldName name.toList)
    (bare : IsBare word.toList) :
    parse (name ++ ":" ++ word) = ⟨[.qualified name (.word word)]⟩ := by
  have shaped : WellShaped [.qualified name (.word word)] :=
    ⟨Or.inl (.fieldWord isName bare), trivial⟩
  have read := tokenize_render shaped
  rw [render, List.map_singleton, String.intercalate_singleton] at read
  show Query.mk (distinct (tokenize (Term.qualified name (.word word)).render)) = _
  rw [read]
  rfl

/-- A field name, a colon and a text between two quotes ask for the normal form of the text in that
field, also where it is empty. -/
theorem parse_fieldQuoted {name text : String} (isName : IsFieldName name.toList)
    (clean : doubleQuote ∉ text.toList) :
    parse (name ++ ":\"" ++ text ++ "\"") =
      ⟨[.qualified name (.phrase (Text.normalize [text]))]⟩ := by
  have written : (name ++ ":\"" ++ text ++ "\"").toList =
      name.toList ++ ':' :: doubleQuote :: (text.toList ++ [doubleQuote]) := by
    simp [doubleQuote]
  rw [parse, tokenize, written, Token.scan_fieldQuoted isName clean, Token.phraseOf,
    String.ofList_toList]
  rfl

theorem isFieldName_of_wellShaped {terms : List Term} (shaped : WellShaped terms)
    {name : String} {value : Literal} (member : .qualified name value ∈ terms) :
    IsFieldName name.toList := by
  induction terms with
  | nil => cases member
  | cons term rest inductionHypothesis =>
      rcases List.mem_cons.1 member with rfl | later
      · rcases shaped.1 with closed | ⟨-, unclosed⟩
        · cases closed with
          | fieldWord isName _ => exact isName
          | fieldPhrase isName _ => exact isName
        · cases unclosed
      · exact inductionHypothesis shaped.2 later

/-- No query names a field that could not stand in front of a colon. -/
theorem isFieldName_of_mem {text name : String} {value : Literal}
    (member : .qualified name value ∈ (parse text).terms) : IsFieldName name.toList :=
  isFieldName_of_wellShaped (isCanonical_parse text).shaped member

end Query

end ShadowIndex
