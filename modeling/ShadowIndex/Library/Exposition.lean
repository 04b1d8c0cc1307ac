import ShadowIndex.Value.ErrorText
import ShadowIndex.Text.Quoted

/-!
Contract: the text format in which the library for metrics exposes them.

Owns: the lines that tell of a metric, and the line of a sample with its labels.

Does not own: which metrics there are.
-/

set_option autoImplicit false

namespace ShadowIndex.Exposition

/-- What is told of a metric before its samples. -/
def heads (name kind help : String) : List String :=
  ["# HELP " ++ name ++ " " ++ help, "# TYPE " ++ name ++ " " ++ kind]

def quotedLabel (text : String) : String :=
  let escape (c : Char) : List Char :=
    if c = '\\' then ['\\', '\\']
    else if c = '\n' then ['\\', 'n']
    else if c = Text.doubleQuote then ['\\', Text.doubleQuote]
    else [c]
  "\"" ++ String.ofList (text.toList.flatMap escape) ++ "\""

def sampleLine (name : String) (labels : List (String × String)) (amount : Nat) : String :=
  let shown := labels.map fun label => label.1 ++ "=" ++ quotedLabel label.2
  name ++ Value.braced (joinWith "," shown) ++ " " ++ toString amount ++ ".0"

end ShadowIndex.Exposition
