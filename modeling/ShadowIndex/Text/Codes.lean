/-!
Contract: codes, messages that may hold what no text can.

Owns: `Codes`, the characters of a message, in which a surrogate stands as no character; and the
text that codes make, if they make one.

Does not own: where surrogates come from.
-/

set_option autoImplicit false

namespace ShadowIndex.Text

/-- The characters of a message; a surrogate, which no text can hold, is none. -/
abbrev Codes := List (Option Char)

namespace Codes

def ofText (text : String) : Codes := text.toList.map some

/-- The text that codes make, unless one of them is a surrogate. -/
def text? (codes : Codes) : Option String := (codes.mapM id).map String.ofList

def ofNumber (number : Nat) : Option Char :=
  if 0xD800 ≤ number ∧ number ≤ 0xDFFF then none else some (Char.ofNat number)

/-- Codes up to a limit; dots stand for those that are left out. -/
def clip (limit : Nat) (codes : Codes) : Codes :=
  if codes.length ≤ limit then codes else codes.take limit ++ ofText "..."

theorem text?_ofText (text : String) : (ofText text).text? = some text := by
  have kept (list : List Char) : (list.map some).mapM id = some list := by
    induction list with
    | nil => rfl
    | cons c rest inductionHypothesis => simp [inductionHypothesis]
  simp [text?, ofText, kept]

end Codes

end ShadowIndex.Text
