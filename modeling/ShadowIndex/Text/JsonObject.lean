import ShadowIndex.Text.Json

/-!
Contract: objects in JSON whose members are strings.

Owns:
- `Json.object`, named strings in writing, without blanks;
- `Json.readObject?`, the named strings of an object that is written so: `Json.pieces?` cuts it
  into strings and marks, and `Json.members?` reads these.

Main statement: `readObject?_object`, reading gives what was written.

Does not own: other JSON values, blanks between pieces, or escapes of UTF-16 pairs.
-/

set_option autoImplicit false

namespace ShadowIndex.Text.Json

def member (row : String × String) : String := quoted row.1 ++ ":" ++ quoted row.2

def object (rows : List (String × String)) : String :=
  "\x7b" ++ ",".intercalate (rows.map member) ++ "\x7d"

/-! ## Reading -/

/-- A string, or a character outside strings. -/
inductive Piece where
  | text (inside : List Char)
  | mark (c : Char)
deriving DecidableEq, Repr

def hexDigit? (c : Char) : Option Nat :=
  if c.isDigit then some (c.toNat - '0'.toNat)
  else if 'a' ≤ c ∧ c ≤ 'f' then some (c.toNat - 'a'.toNat + 10)
  else if 'A' ≤ c ∧ c ≤ 'F' then some (c.toNat - 'A'.toNat + 10)
  else none

/-- The character whose number some digits are. -/
def numbered? (digits : List Char) : Option Char := do
  let values ← digits.mapM hexDigit?
  let code := values.foldl (fun code value => code * 16 + value) 0
  if code.isValidChar then return Char.ofNat code else failure

/-- What a letter behind a backslash means. -/
def meant? (letter : Char) : Option Char :=
  if letter = doubleQuote ∨ letter = '\\' ∨ letter = '/' then some letter
  else if letter = 'n' then some '\n'
  else if letter = 'r' then some '\r'
  else if letter = 't' then some '\t'
  else if letter = 'b' then some '\x08'
  else if letter = 'f' then some '\x0c'
  else none

/-- The pieces of a text, of which the first is a string whose beginning was read if there is
one. What was read of a string stands with its last character first. -/
def pieces? : Option (List Char) → List Char → Option (List Piece)
  | none, [] => some []
  | some _, [] => none
  | none, '\x22' :: rest => pieces? (some []) rest
  | some inside, '\x22' :: rest => (pieces? none rest).map (Piece.text inside.reverse :: ·)
  | none, c :: rest => (pieces? none rest).map (Piece.mark c :: ·)
  | some inside, '\\' :: 'u' :: first :: second :: third :: last :: rest => do
      let c ← numbered? [first, second, third, last]
      pieces? (some (c :: inside)) rest
  | some inside, '\\' :: letter :: rest => do
      let c ← meant? letter
      pieces? (some (c :: inside)) rest
  | some inside, c :: rest => pieces? (some (c :: inside)) rest

/-- The members of an object, up to its end. -/
def members? : List Piece → Option (List (String × String))
  | [.text name, .mark ':', .text value, .mark '\x7d'] =>
      some [(String.ofList name, String.ofList value)]
  | .text name :: .mark ':' :: .text value :: .mark ',' :: rest =>
      (members? rest).map ((String.ofList name, String.ofList value) :: ·)
  | _ => none

def readObject? (text : String) : Option (List (String × String)) :=
  match pieces? none text.toList with
  | some [.mark '\x7b', .mark '\x7d'] => some []
  | some (.mark '\x7b' :: rest) => members? rest
  | _ => none

/-! ## One character -/

theorem meant?_of_controlLetter? {c letter : Char} (short : controlLetter? c = some letter) :
    letter ≠ 'u' ∧ meant? letter = some c := by
  unfold controlLetter? at short
  repeat' split at short
  all_goals cases short
  all_goals
    subst_vars
    decide

/-- The controls are escaped by four digits that are their number. -/
theorem numbered?_hexPadded {code : Nat} (control : code < 0x20) :
    ∃ first second third last, hexPadded 4 code = [first, second, third, last] ∧
      numbered? [first, second, third, last] = some (Char.ofNat code) := by
  have checked : ∀ code < 0x20, (hexPadded 4 code).length = 4 ∧
      numbered? (hexPadded 4 code) = some (Char.ofNat code) := by decide +kernel
  obtain ⟨isFour, reads⟩ := checked code control
  obtain ⟨first, second, third, last, digits⟩ : ∃ first second third last,
      hexPadded 4 code = [first, second, third, last] := by
    match hexPadded 4 code, isFour with
    | [first, second, third, last], _ => exact ⟨first, second, third, last, rfl⟩
  exact ⟨first, second, third, last, digits, digits ▸ reads⟩

variable (inside rest : List Char)

/-- A backslash takes the letter behind it along, unless digits come after it. -/
theorem pieces?_letter {letter : Char} (noDigits : letter ≠ 'u') :
    pieces? (some inside) ('\\' :: letter :: rest) =
      (meant? letter).bind fun c => pieces? (some (c :: inside)) rest := by
  rw [pieces?.eq_def]
  split <;> simp_all
  rename_i noLetter _ same
  exact (noLetter _ _ same.1.symm same.2.symm).elim

theorem pieces?_plain {c : Char} (noQuote : c ≠ doubleQuote) (noBackslash : c ≠ '\\') :
    pieces? (some inside) (c :: rest) = pieces? (some (c :: inside)) rest := by
  have noMark : c ≠ '\x22' := noQuote
  rw [pieces?.eq_def]
  split <;> simp_all

/-- Reading a character that was escaped, if it has to be, gives the character. -/
theorem pieces?_escape (c : Char) :
    pieces? (some inside) (escape c ++ rest) = pieces? (some (c :: inside)) rest := by
  unfold escape
  split
  · rename_i special
    have stands : c ≠ 'u' ∧ meant? c = some c := by
      rcases special with rfl | rfl <;> decide
    simp only [List.cons_append, List.nil_append, pieces?_letter inside rest stands.1, stands.2,
      Option.bind_some]
  · rename_i usual
    cases short : controlLetter? c with
    | some letter =>
        obtain ⟨noDigits, means⟩ := meant?_of_controlLetter? short
        simp only [List.cons_append, List.nil_append, pieces?_letter inside rest noDigits, means,
          Option.bind_some]
    | none =>
        by_cases control : c.toNat < 0x20
        · obtain ⟨first, second, third, last, digits, reads⟩ := numbered?_hexPadded control
          simp only [control, if_true, digits, List.cons_append, List.nil_append, pieces?, reads,
            Char.ofNat_toNat]
          rfl
        · simp only [control, if_false, List.cons_append, List.nil_append]
          exact pieces?_plain inside rest (fun same => usual (Or.inl same))
            (fun same => usual (Or.inr same))

/-! ## Strings and objects -/

theorem pieces?_flatMap_escape (text : List Char) :
    pieces? (some inside) (text.flatMap escape ++ doubleQuote :: rest) =
      (pieces? none rest).map (Piece.text (inside.reverse ++ text) :: ·) := by
  induction text generalizing inside with
  | nil => simp only [List.flatMap_nil, List.nil_append, List.append_nil, doubleQuote, pieces?]
  | cons c text inductionHypothesis =>
      rw [List.flatMap_cons, List.append_assoc, pieces?_escape, inductionHypothesis]
      simp only [List.reverse_cons, List.append_assoc, List.singleton_append]

theorem pieces?_quoted (text : String) :
    pieces? none ((quoted text).toList ++ rest) =
      (pieces? none rest).map (Piece.text text.toList :: ·) := by
  have step := pieces?_flatMap_escape [] rest text.toList
  simpa [quoted, doubleQuote, pieces?] using step

theorem pieces?_mark {c : Char} (noQuote : c ≠ '\x22') :
    pieces? none (c :: rest) = (pieces? none rest).map (Piece.mark c :: ·) := by
  rw [pieces?.eq_def]
  split <;> simp_all

theorem pieces?_member (row : String × String) :
    pieces? none ((member row).toList ++ rest) =
      (pieces? none rest).map fun pieces =>
        .text row.1.toList :: .mark ':' :: .text row.2.toList :: pieces := by
  have colon : (":" : String).toList = [':'] := rfl
  simp only [member, String.toList_append, List.append_assoc, pieces?_quoted, colon,
    List.cons_append, List.nil_append, pieces?_mark _ (by decide : (':' : Char) ≠ '\x22'),
    Option.map_map]
  rfl

/-- The pieces of the members of an object, up to its end. -/
def memberPieces : List (String × String) → List Piece
  | [] => [.mark '\x7d']
  | [row] => [.text row.1.toList, .mark ':', .text row.2.toList, .mark '\x7d']
  | row :: rows =>
      .text row.1.toList :: .mark ':' :: .text row.2.toList :: .mark ',' :: memberPieces rows

theorem pieces?_members (rows : List (String × String)) :
    pieces? none ((",".intercalate (rows.map member)).toList ++ ['\x7d']) =
      some (memberPieces rows) := by
  have comma : ("," : String).toList = [','] := rfl
  induction rows with
  | nil => rfl
  | cons row rows inductionHypothesis =>
      cases rows with
      | nil =>
          simp only [List.map_cons, List.map_nil, String.intercalate_singleton, pieces?_member]
          rfl
      | cons next rows =>
          simp only [List.map_cons] at inductionHypothesis
          simp only [List.map_cons, String.intercalate_cons_cons, String.toList_append,
            List.append_assoc, pieces?_member, comma, List.cons_append, List.nil_append,
            pieces?_mark _ (by decide : (',' : Char) ≠ '\x22'), inductionHypothesis]
          rfl

theorem members?_memberPieces (row : String × String) (rows : List (String × String)) :
    members? (memberPieces (row :: rows)) = some (row :: rows) := by
  induction rows generalizing row with
  | nil => simp only [memberPieces, members?, String.ofList_toList]
  | cons next rows inductionHypothesis =>
      simp only [memberPieces, members?, inductionHypothesis, Option.map_some,
        String.ofList_toList]

theorem object_ne_empty (rows : List (String × String)) : object rows ≠ "" := by
  intro empty
  have noChars := congrArg String.toList empty
  simp [object] at noChars

/-- Reading an object gives the rows that were written, in their order. -/
theorem readObject?_object (rows : List (String × String)) :
    readObject? (object rows) = some rows := by
  have opening : ("\x7b" : String).toList = ['\x7b'] := rfl
  have closing : ("\x7d" : String).toList = ['\x7d'] := rfl
  have cut : pieces? none (object rows).toList =
      some (.mark '\x7b' :: memberPieces rows) := by
    simp only [object, String.toList_append, opening, closing, List.cons_append,
      List.nil_append, pieces?_mark _ (by decide : ('\x7b' : Char) ≠ '\x22'), pieces?_members,
      Option.map_some]
  unfold readObject?
  rw [cut]
  cases rows with
  | nil => rfl
  | cons row rows =>
      have reads := members?_memberPieces row rows
      cases rows <;> exact reads

end ShadowIndex.Text.Json
