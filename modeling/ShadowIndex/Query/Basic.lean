import ShadowIndex.Text.Quoted

/-!
Contract: queries, lists of terms that must all match.

Owns:
- words, phrases, and either of them restricted to one field;
- the written form of a query;
- the field names a query uses.

Does not own: reading a query, or what a term matches.
-/

set_option autoImplicit false

namespace ShadowIndex

/-- The members of a list, each at its first place. -/
def distinct {α : Type} [DecidableEq α] : List α → List α
  | [] => []
  | item :: rest => item :: (distinct rest).filter fun other => decide (other ≠ item)

/-- Text to look for: a single word, or words that stand next to each other. -/
inductive Literal where
  | word (text : String)
  | phrase (text : String)
deriving DecidableEq, Repr, Inhabited

namespace Literal

def text : Literal → String
  | word text => text
  | phrase text => text

/-- A phrase is written between double quotes. -/
def render : Literal → String
  | word text => text
  | phrase text => "\"" ++ text ++ "\""

end Literal

/-- Something every result must match: a literal anywhere, or a literal in one field. -/
inductive Term where
  | plain (value : Literal)
  | qualified (field : String) (value : Literal)
deriving DecidableEq, Repr, Inhabited

namespace Term

/-- A field and its literal are written with a colon between them. -/
def render : Term → String
  | plain value => value.render
  | qualified field value => field ++ ":" ++ value.render

def field? : Term → Option String
  | plain _ => none
  | qualified field _ => some field

end Term

structure Query where
  terms : List Term
deriving DecidableEq, Repr, Inhabited

namespace Query

/-- Terms are written with one space between them. -/
def render (query : Query) : String := " ".intercalate (query.terms.map Term.render)

def isBlank (query : Query) : Bool := query.terms.isEmpty

/-- The fields that qualified terms name, each once, in order of appearance. -/
def qualifiers (query : Query) : List String := distinct (query.terms.filterMap Term.field?)

end Query

end ShadowIndex
