import ShadowIndex.Text.Printable

/-!
Contract: quoted text, the written form of a string or of raw octets inside a longer text.

Owns:
- the choice of the quotation mark;
- escapes of marks, controls, characters that are not printable, and octets above ASCII.

Does not own: which values are written quoted, or how quoted text is read.
-/

set_option autoImplicit false

namespace ShadowIndex.Text

def apostrophe : Char := '\x27'

def doubleQuote : Char := '\x22'

/-- Lower-case hexadecimal digits of a number, padded with zeros to a width. -/
def hexPadded (width code : Nat) : List Char :=
  let digits := Nat.toDigits 16 code
  List.replicate (width - digits.length) '0' ++ digits

/-- Apostrophes, unless the text holds an apostrophe and no double quote. -/
def quoteMark (text : List Char) : Char :=
  if text.contains apostrophe && !text.contains doubleQuote then doubleQuote else apostrophe

/-- The short escapes: backslash, mark, tab, line feed and carriage return. -/
def shortEscape (mark c : Char) : Option (List Char) :=
  if c = '\\' then some ['\\', '\\']
  else if c = mark then some ['\\', mark]
  else if c = '\t' then some ['\\', 't']
  else if c = '\n' then some ['\\', 'n']
  else if c = '\r' then some ['\\', 'r']
  else none

/-- An escape by number, in the least of two, four or eight digits that holds it. -/
def numberEscape (code : Nat) : List Char :=
  if code < 0x100 then '\\' :: 'x' :: hexPadded 2 code
  else if code < 0x10000 then '\\' :: 'u' :: hexPadded 4 code
  else '\\' :: 'U' :: hexPadded 8 code

def quotedChar (mark c : Char) : List Char :=
  match shortEscape mark c with
  | some escape => escape
  | none => if isPrintable c then [c] else numberEscape c.toNat

def quoted (text : String) : String :=
  let mark := quoteMark text.toList
  String.ofList (mark :: text.toList.flatMap (quotedChar mark) ++ [mark])

def quotedOctet (mark : Char) (octet : UInt8) : List Char :=
  let c := Char.ofNat octet.toNat
  match shortEscape mark c with
  | some escape => escape
  | none => if 0x20 ≤ octet ∧ octet < 0x7F then [c] else numberEscape octet.toNat

/-- Octets between quotation marks: ASCII as it is, all else by number. -/
def quotedOctets (octets : List UInt8) : String :=
  let mark := quoteMark (octets.map fun octet => Char.ofNat octet.toNat)
  String.ofList (mark :: octets.flatMap (quotedOctet mark) ++ [mark])

/-- Octets that can change, between quotation marks: an apostrophe is escaped between any. -/
def quotedBuffer (octets : List UInt8) : String :=
  let mark := quoteMark (octets.map fun octet => Char.ofNat octet.toNat)
  String.ofList (mark :: octets.flatMap (quotedOctet apostrophe) ++ [mark])

example : quoted "it's" = "\"it's\"" := by decide +kernel
example : quoted "a\n\u00e9\u200b" = "'a\\n\u00e9\\u200b'" := by decide +kernel

end ShadowIndex.Text
