import ShadowIndex.Text.Quoted

/-!
Contract: strings in JSON.

Owns:
- `Json.quoted`, a string between double quotes, in which double quotes, backslashes and controls
  below U+0020 are escaped, and nothing else;
- `Json.quotedAscii`, in which everything outside printable ASCII is escaped too, as one or two
  UTF-16 units.

Does not own: other JSON values.
-/

set_option autoImplicit false

namespace ShadowIndex.Text.Json

/-- The controls that have an escape of one letter. -/
def controlLetter? (c : Char) : Option Char :=
  if c = '\n' then some 'n'
  else if c = '\r' then some 'r'
  else if c = '\t' then some 't'
  else if c = '\x08' then some 'b'
  else if c = '\x0c' then some 'f'
  else none

def escape (c : Char) : List Char :=
  if c = doubleQuote ∨ c = '\\' then ['\\', c]
  else
    match controlLetter? c with
    | some letter => ['\\', letter]
    | none => if c.toNat < 0x20 then '\\' :: 'u' :: hexPadded 4 c.toNat else [c]

def quoted (text : String) : String :=
  String.ofList (doubleQuote :: text.toList.flatMap escape ++ [doubleQuote])

def unitEscape (unit : Nat) : List Char := '\\' :: 'u' :: hexPadded 4 unit

def escapeAscii (c : Char) : List Char :=
  let code := c.toNat
  if code < 0x7F then escape c
  else if code < 0x10000 then unitEscape code
  else unitEscape (0xD800 + (code - 0x10000) / 0x400) ++ unitEscape (0xDC00 + (code - 0x10000) % 0x400)

def quotedAscii (text : String) : String :=
  String.ofList (doubleQuote :: text.toList.flatMap escapeAscii ++ [doubleQuote])

example : quotedAscii "\u00e9😀" = "\"\\u00e9\\ud83d\\ude00\"" := by decide +kernel
example : quoted "a\"\n\x01\u00e9" = "\"a\\\"\\n\\u0001\u00e9\"" := by decide +kernel

end ShadowIndex.Text.Json
