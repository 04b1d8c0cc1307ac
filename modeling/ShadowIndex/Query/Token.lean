import ShadowIndex.Query.Basic

/-!
Contract: the tokens of a query text, and the query they make.

Owns:
- `Token.scan`, which splits a text at blanks, keeps quoted phrases whole, and never fails;
- `Query.parse`, the distinct terms of a text.

Main statements: every step of the scan consumes a character (`length_readToken_lt`), so the
scan ends on every text.

Does not own: which fields exist.
-/

set_option autoImplicit false

namespace ShadowIndex

/-- What a scan finds: a term, a quoted text without a word, or a quote that is never closed,
which makes the rest of the text one word. -/
inductive Token where
  | term (value : Term)
  | blankPhrase
  | unclosed (text : String)
deriving DecidableEq, Repr

namespace Token

def term? : Token → Option Term
  | term value => some value
  | blankPhrase => none
  | unclosed text => some (.plain (.word text))

/-- The text before the first double quote, and the text after it. -/
def breakQuote : List Char → Option (List Char × List Char)
  | [] => none
  | c :: rest =>
      if c = Text.doubleQuote then some ([], rest)
      else (breakQuote rest).map fun parts => (c :: parts.1, parts.2)

/-- A field and its value: what stands before and after the first colon, if neither is empty. -/
def splitQualifier (token : List Char) : Option (List Char × List Char) :=
  let field := token.takeWhile fun c => c != ':'
  let value := (token.dropWhile fun c => c != ':').drop 1
  if field.isEmpty || value.isEmpty then none else some (field, value)

/-- The phrase between two quotes, in normal form. -/
def phraseOf (inside : List Char) : Literal := .phrase (String.ofList (Text.normalizeChars [inside]))

def ofUnclosed (text : List Char) : Token := .unclosed (String.ofList (Text.trimEnd text))

/-- The token between two quotes that no field precedes. -/
def ofQuoted (inside : List Char) : Token :=
  if (Text.normalizeChars [inside]).isEmpty then .blankPhrase
  else .term (.plain (phraseOf inside))

/-- Reads a token up to the next blank; a quoted value may hold blanks. -/
def readBare (text : List Char) : Token × List Char :=
  let token := text.takeWhile fun c => !Text.isBlank c
  let after := text.dropWhile fun c => !Text.isBlank c
  match splitQualifier token with
  | none => (.term (.plain (.word (String.ofList token))), after)
  | some (field, value) =>
      if value.head? = some Text.doubleQuote then
        match breakQuote (text.drop (field.length + 2)) with
        | some (inside, rest) =>
            (.term (.qualified (String.ofList field) (phraseOf inside)), rest)
        | none => (ofUnclosed text, [])
      else
        (.term (.qualified (String.ofList field) (.word (String.ofList value))), after)

/-- Reads the token at the start of a text that starts with no blank. -/
def readToken (c : Char) (rest : List Char) : Token × List Char :=
  if c = Text.doubleQuote then
    match breakQuote rest with
    | some (inside, after) => (ofQuoted inside, after)
    | none => (ofUnclosed (c :: rest), [])
  else readBare (c :: rest)

theorem length_breakQuote_lt {text inside after : List Char}
    (found : breakQuote text = some (inside, after)) : after.length < text.length := by
  induction text generalizing inside with
  | nil => simp [breakQuote] at found
  | cons c rest inductionHypothesis =>
      simp only [breakQuote] at found
      split at found
      · simp only [Option.some.injEq, Prod.mk.injEq] at found
        simp [← found.2]
      · simp only [Option.map_eq_some_iff, Prod.mk.injEq] at found
        obtain ⟨parts, partsFound, -, sameAfter⟩ := found
        have shorter := @inductionHypothesis parts.1 (by rw [partsFound, ← sameAfter])
        simp only [List.length_cons]
        omega

theorem length_dropWhile_le {α : Type} (test : α → Bool) (items : List α) :
    (items.dropWhile test).length ≤ items.length :=
  (List.dropWhile_sublist test).length_le

theorem length_readBare_lt {c : Char} (rest : List Char) (solid : Text.isBlank c = false) :
    (readBare (c :: rest)).2.length < (c :: rest).length := by
  have afterShort : ((c :: rest).dropWhile fun c => !Text.isBlank c).length
      < (c :: rest).length := by
    have shorter := length_dropWhile_le (fun c => !Text.isBlank c) rest
    simp only [List.dropWhile_cons, solid, Bool.not_false, if_true, List.length_cons]
    omega
  simp only [readBare]
  split
  · exact afterShort
  · split
    · split
      · rename_i after found
        have shorter := length_breakQuote_lt found
        rw [List.length_drop] at shorter
        change after.length < _
        omega
      · simp
    · exact afterShort

/-- Reading a token consumes at least one character. -/
theorem length_readToken_lt {c : Char} (rest : List Char) (solid : Text.isBlank c = false) :
    (readToken c rest).2.length < (c :: rest).length := by
  unfold readToken
  split
  · split
    · rename_i found
      have shorter := length_breakQuote_lt found
      simp only [List.length_cons]
      omega
    · simp
  · exact length_readBare_lt rest solid

def scan : List Char → List Token
  | [] => []
  | c :: rest =>
      if _solid : Text.isBlank c = false then
        (readToken c rest).1 :: scan (readToken c rest).2
      else scan rest
termination_by text => text.length
decreasing_by
  · exact length_readToken_lt rest ‹_›
  · simp

end Token

namespace Query

/-- The terms of a text, in order, repetitions included. -/
def tokenize (text : String) : List Term := (Token.scan text.toList).filterMap Token.term?

/-- The query that a text denotes. -/
def parse (text : String) : Query := ⟨distinct (tokenize text)⟩

end Query

end ShadowIndex
