import ShadowIndex.Table
import ShadowIndex.Text.Blank
import ShadowIndex.Text.Quoted

/-!
Contract: settings files, lines that bind names to texts, as the library for settings reads them.

Owns:
- `Dotenv.bindings`, the bindings of a file. A binding may follow the word export; its value
  stands bare up to the end of the line or a comment, or between quotation marks, where it may
  go on over lines. A line that is no binding is passed over;
- `Dotenv.read`, the bindings with references to other names replaced.

Does not own: which names are settings.
-/

set_option autoImplicit false

namespace ShadowIndex.Dotenv

/-- Lines may end in a carriage return, a line feed or both. -/
def unifyLines : List Char → List Char
  | '\r' :: '\n' :: rest => '\n' :: unifyLines rest
  | '\r' :: rest => '\n' :: unifyLines rest
  | c :: rest => c :: unifyLines rest
  | [] => []

/-- A blank that does not end a line. -/
def isSpace (c : Char) : Bool := Text.isBlank c && c != '\n'

def skipSpaces (text : List Char) : List Char := text.dropWhile isSpace

/-- What follows the line at the start of a text. -/
def skipLine (text : List Char) : List Char := (text.dropWhile (· != '\n')).drop 1

/-- What follows the word export and the spaces behind it, if they are there. -/
def skipExport (text : List Char) : List Char :=
  let word := "export".toList
  let after := text.drop word.length
  if text.take word.length = word ∧ after.head?.any isSpace then skipSpaces after else text

/-! ## Names and values -/

/-- A name that may stand between apostrophes. -/
def readName? (text : List Char) : Option (String × List Char) :=
  match text with
  | '\x27' :: rest =>
      let name := rest.takeWhile (· != Text.apostrophe)
      match rest.drop name.length with
      | _ :: after => if name.isEmpty then none else some (String.ofList name, after)
      | [] => none
  | _ =>
      let isPart (c : Char) := c != '=' && c != '#' && !Text.isBlank c
      let name := text.takeWhile isPart
      if name.isEmpty then none else some (String.ofList name, text.dropWhile isPart)

/-- The text up to the mark that closes it, and what follows. A character behind a backslash never
closes. -/
def readQuoted? (mark : Char) : List Char → Option (List Char × List Char)
  | [] => none
  | '\\' :: next :: rest =>
      (readQuoted? mark rest).map fun parts => ('\\' :: next :: parts.1, parts.2)
  | c :: rest =>
      if c = mark then some ([], rest)
      else (readQuoted? mark rest).map fun parts => (c :: parts.1, parts.2)

/-- The characters that an escape between apostrophes stands for. -/
def singleEscapes : List (Char × Char) := [('\\', '\\'), (Text.apostrophe, Text.apostrophe)]

/-- The characters that an escape between double quotes stands for. -/
def doubleEscapes : List (Char × Char) :=
  singleEscapes ++
    [(Text.doubleQuote, Text.doubleQuote), ('a', '\x07'), ('b', '\x08'), ('f', '\x0c'),
     ('n', '\n'), ('r', '\r'), ('t', '\t'), ('v', '\x0b')]

def unescape (escapes : List (Char × Char)) : List Char → List Char
  | [] => []
  | '\\' :: next :: rest =>
      match escapes.lookup next with
      | some c => c :: unescape escapes rest
      | none => '\\' :: unescape escapes (next :: rest)
  | c :: rest => c :: unescape escapes rest

/-- Cuts a comment, a number sign behind a blank, and the blanks before it. -/
def cutComment : List Char → List Char
  | [] => []
  | c :: rest =>
      if Text.isBlank c ∧ (rest.dropWhile Text.isBlank).head? = some '#' then []
      else c :: cutComment rest

def readValue? (text : List Char) : Option (List Char × List Char) :=
  match text with
  | '\x27' :: rest =>
      (readQuoted? Text.apostrophe rest).map fun parts => (unescape singleEscapes parts.1, parts.2)
  | '\x22' :: rest =>
      (readQuoted? Text.doubleQuote rest).map fun parts => (unescape doubleEscapes parts.1, parts.2)
  | _ =>
      some (Text.trimEnd (cutComment (text.takeWhile (· != '\n'))), text.dropWhile (· != '\n'))

/-! ## Bindings -/

/-- A name, and its value unless the line holds the name alone. -/
abbrev Binding := String × Option (List Char)

/-- What follows a line, if a comment is all that is left of it. -/
def endLine? (text : List Char) : Option (List Char) :=
  let spaced := skipSpaces text
  let left := if spaced.head? = some '#' then spaced.dropWhile (· != '\n') else spaced
  match left with
  | [] => some []
  | c :: after => if c = '\n' then some after else none

/-- A binding, if nothing but a comment follows it on its line. -/
def closeBinding (binding : Option Binding) (text : List Char) : Option Binding × List Char :=
  match endLine? text with
  | some after => (binding, after)
  | none => (none, skipLine text)

/-- The binding at the start of a text, if there is one, and what follows. -/
def readBinding (text : List Char) : Option Binding × List Char :=
  let start := skipExport text
  if start.head? = some '#' then closeBinding none start
  else
    match readName? start with
    | none => (none, skipLine start)
    | some (name, after) =>
        match skipSpaces after with
        | '=' :: spaced =>
            let rest := skipSpaces spaced
            if rest.head? = some '#' ∧ rest.length < spaced.length then
              closeBinding (some (name, some [])) rest
            else
              match readValue? rest with
              | some (value, after) => closeBinding (some (name, some value)) after
              | none => (none, skipLine rest)
        | rest => closeBinding (some (name, none)) rest

/-- The bindings of a text with unified lines, in order. -/
def bindings (text : List Char) : List Binding :=
  match text with
  | [] => []
  | c :: rest =>
      if Text.isBlank c then bindings rest
      else
        let (binding, after) := readBinding (c :: rest)
        if _ : after.length < (c :: rest).length then binding.toList ++ bindings after
        else binding.toList
termination_by text.length
decreasing_by
  · simp
  · assumption

/-! ## References -/

/-- A reference to a name, with a text for the case that it has no value; `size` counts the
characters behind the dollar sign. -/
structure Reference where
  name : String
  default : List Char
  size : Nat

def readReference? (text : List Char) : Option Reference :=
  match text with
  | '\x7b' :: rest =>
      let name := rest.takeWhile fun c => c != '\x7d' && c != ':'
      match rest.drop name.length with
      | '\x7d' :: _ => some ⟨String.ofList name, [], name.length + 2⟩
      | ':' :: '-' :: more =>
          let default := more.takeWhile (· != '\x7d')
          if default.length < more.length then
            some ⟨String.ofList name, default, name.length + default.length + 4⟩
          else none
      | _ => none
  | _ => none

/-- Replaces references by the values of their names. -/
def expand (valueOf : String → Option String) : List Char → List Char
  | [] => []
  | c :: rest =>
      match (if c = '$' then readReference? rest else none) with
      | some reference =>
          ((valueOf reference.name).map String.toList).getD reference.default
            ++ expand valueOf (rest.drop reference.size)
      | none => c :: expand valueOf rest
termination_by text => text.length
decreasing_by all_goals simp only [List.length_drop, List.length_cons]; omega

/-- The value of a name for references: that of the last binding above, or else that of the
environment. A name bound without a value is empty. -/
def valueOf (environment : List (String × String)) (above : Table String (Option String))
    (name : String) : Option String :=
  match above.find? name with
  | some bound => some (bound.getD "")
  | none => environment.reverse.lookup name

/-- A text without the byte order mark in front of it. -/
def dropMark : List Char → List Char
  | '\uFEFF' :: rest => rest
  | text => text

/-- The names and values that a settings file binds, each name once with its last value. -/
def read (environment : List (String × String)) (text : String) : Table String (Option String) :=
  (bindings (unifyLines (dropMark text.toList))).foldl
    (fun above binding =>
      above.insert binding.1 (binding.2.map fun value =>
        String.ofList (expand (valueOf environment above) value)))
    .empty

end ShadowIndex.Dotenv
