import ShadowIndex.Query.Basic

/-!
Contract: terms made by hand, in which a field may stand in front of another.

Owns:
- `NestedTerm`, a literal with any number of fields in front of it, and its written form;
- the queries that such terms make: their written form, and the fields in front;
- the term that a nested one is, if it has at most one field.

Main statement: a term is the nested term made of it (`term?_ofTerm`).

Does not own: reading a query; a text gives no nested terms.
-/

set_option autoImplicit false

namespace ShadowIndex

/-- A literal, or a field in front of a nested term. -/
inductive NestedTerm where
  | plain (value : Literal)
  | qualified (field : String) (value : NestedTerm)
deriving DecidableEq, Repr, Inhabited

namespace NestedTerm

def render : NestedTerm → String
  | plain value => value.render
  | qualified field value => field ++ ":" ++ value.render

def field? : NestedTerm → Option String
  | plain _ => none
  | qualified field _ => some field

def ofTerm : Term → NestedTerm
  | .plain value => plain value
  | .qualified field value => qualified field (plain value)

/-- The term that a nested one is, unless a field stands in front of another. -/
def term? : NestedTerm → Option Term
  | plain value => some (.plain value)
  | qualified field (plain value) => some (.qualified field value)
  | qualified _ (qualified ..) => none

theorem term?_ofTerm (term : Term) : (ofTerm term).term? = some term := by
  cases term <;> rfl

theorem render_ofTerm (term : Term) : (ofTerm term).render = term.render := by
  cases term <;> rfl

/-- Terms are written with one space between them. -/
def renderAll (terms : List NestedTerm) : String := " ".intercalate (terms.map render)

/-- The fields in front of terms, each once, in order of appearance. -/
def qualifiers (terms : List NestedTerm) : List String := distinct (terms.filterMap field?)

end NestedTerm

end ShadowIndex
