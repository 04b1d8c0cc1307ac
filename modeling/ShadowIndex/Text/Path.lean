/-!
Contract: paths of files, as texts.

Owns: the parts of a path, and its normal form. Nothing is looked up, so that two dots stay.

Does not own: which file a path names.
-/

set_option autoImplicit false

namespace ShadowIndex.Text.Path

/-- The root of a path. Exactly two slashes at the start are a root of their own. -/
def root (text : String) : String :=
  let slashes := (text.toList.takeWhile (· == '/')).length
  if slashes = 2 then "//" else if slashes = 0 then "" else "/"

/-- The names between slashes, without empty ones and single dots. -/
def names (text : String) : List String :=
  (text.splitOn "/").filter fun name => name ≠ "" && name ≠ "."

def parts (text : String) : List String :=
  if root text = "" then names text else root text :: names text

/-- The normal form of a path: single slashes, no single dots, none at the end. -/
def normal (text : String) : String :=
  let path := root text ++ "/".intercalate (names text)
  if path = "" then "." else path

end ShadowIndex.Text.Path
