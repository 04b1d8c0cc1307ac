import ShadowIndex.Index.Entry
import ShadowIndex.Query.Nested
import ShadowIndex.Query.Token

/-!
Contract: which entries match a query.

Owns:
- `Definition.matchesTerm`: a plain term looks in the full text, a qualified one in the text of
  the field that its qualifier selects, and an unknown qualifier matches nothing;
- `Definition.accepts`, all terms of a query;
- `Definition.matchesNested`, terms made by hand. One with a field in front of another fails where
  there is a text to look into.

Does not own: whether an entry is up to date.
-/

set_option autoImplicit false

namespace ShadowIndex.Definition

def matchesTerm (definition : Definition) (entry : Entry) : Term → Bool
  | .plain value => Text.contains entry.content.fullText value.text
  | .qualified qualifier value =>
      match definition.resolve qualifier with
      | none => false
      | some (name, _) =>
          match entry.fieldText? name with
          | none => false
          | some text => Text.contains text value.text

def accepts (definition : Definition) (query : Query) (entry : Entry) : Bool :=
  query.terms.all (definition.matchesTerm entry)

/-- The text of an entry in which a qualifier looks. -/
def qualifiedText? (definition : Definition) (entry : Entry) (qualifier : String) :
    Option String :=
  (definition.resolve qualifier).bind fun row => entry.fieldText? row.1

/-- Whether an entry matches one term made by hand. -/
def matchesNested (definition : Definition) (entry : Entry) (term : NestedTerm) :
    Except Failure Bool :=
  match term.term? with
  | some term => .ok (definition.matchesTerm entry term)
  | none =>
      match term.field?.bind (definition.qualifiedText? entry) with
      | some _ => .error (.noMember "Qualified" "text")
      | none => .ok false

/-- Whether an entry matches every term of a list, up to the first that it does not match. -/
def acceptsNested (definition : Definition) (entry : Entry) :
    List NestedTerm → Except Failure Bool
  | [] => .ok true
  | term :: rest => do
      if ← definition.matchesNested entry term then acceptsNested definition entry rest
      else return false

/-- The owners of the entries that match, in order. -/
def select (definition : Definition) (query : Query) (entries : List Entry) : List Id :=
  (entries.filter (definition.accepts query)).map fun entry => entry.owner.id

end ShadowIndex.Definition
