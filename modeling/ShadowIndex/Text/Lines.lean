/-!
Contract: the lines of a text.

Owns: where a line ends, and `Lines.indented`, a text in which every line is indented.

Does not own: how much it is indented.
-/

set_option autoImplicit false

namespace ShadowIndex.Text.Lines

/-- The characters behind which a line ends. A carriage return ends none when a line feed follows
it. -/
def isEnd (c : Char) : Bool :=
  ['\n', '\r', '\x0b', '\x0c', '\x1c', '\x1d', '\x1e', '\u0085', '\u2028', '\u2029'].contains c

/-- Whether a line ends between a character and the rest of a text. -/
def endsBetween (c : Char) (rest : List Char) : Bool :=
  isEnd c && !(c == '\r' && rest.head? == some '\n')

/-- A text with an indent in front of each line; the first character starts one when `starts`. -/
def indented (indent : List Char) (starts : Bool) : List Char → List Char
  | [] => []
  | c :: rest =>
      (if starts then indent else []) ++ c :: indented indent (endsBetween c rest) rest

example : indented ['>'] true "a\r\nb\n".toList = ">a\r\n>b\n".toList := by decide

end ShadowIndex.Text.Lines
