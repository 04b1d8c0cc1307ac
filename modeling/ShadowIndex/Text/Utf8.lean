/-!
Contract: UTF-8, read with a replacement character for what is not well formed.

Owns:
- `decode`, which gives U+FFFD for every maximal ill-formed part;
- `encode`, and `decodeExact?`, which refuses octets that are not an encoding.

Does not own: where octets come from.
-/

set_option autoImplicit false

namespace ShadowIndex.Text.Utf8

/-- A character under way: octets still owed, bits read so far, and the range of the next
octet. -/
structure Pending where
  owed : Nat
  bits : Nat
  low : UInt8
  high : UInt8
deriving DecidableEq, Repr

def replacement : Char := '\uFFFD'

/-- What the first octet of a character gives: a character, or a character under way. -/
def first (octet : UInt8) : List Char × Option Pending :=
  let code := octet.toNat
  if code ≤ 0x7F then ([Char.ofNat code], none)
  else if 0xC2 ≤ code ∧ code ≤ 0xDF then ([], some ⟨1, code - 0xC0, 0x80, 0xBF⟩)
  else if code = 0xE0 then ([], some ⟨2, 0, 0xA0, 0xBF⟩)
  else if code = 0xED then ([], some ⟨2, 0xD, 0x80, 0x9F⟩)
  else if 0xE1 ≤ code ∧ code ≤ 0xEF then ([], some ⟨2, code - 0xE0, 0x80, 0xBF⟩)
  else if code = 0xF0 then ([], some ⟨3, 0, 0x90, 0xBF⟩)
  else if 0xF1 ≤ code ∧ code ≤ 0xF3 then ([], some ⟨3, code - 0xF0, 0x80, 0xBF⟩)
  else if code = 0xF4 then ([], some ⟨3, 4, 0x80, 0x8F⟩)
  else ([replacement], none)

/-- One octet more; an octet that cannot continue the character under way starts anew. -/
def next : Option Pending → UInt8 → List Char × Option Pending
  | none, octet => first octet
  | some pending, octet =>
      if pending.low ≤ octet ∧ octet ≤ pending.high then
        let bits := pending.bits * 64 + (octet.toNat - 0x80)
        if pending.owed = 1 then ([Char.ofNat bits], none)
        else ([], some ⟨pending.owed - 1, bits, 0x80, 0xBF⟩)
      else
        let (written, under) := first octet
        (replacement :: written, under)

def decodeFrom (pending : Option Pending) : List UInt8 → List Char
  | [] => if pending.isSome then [replacement] else []
  | octet :: rest =>
      let (written, under) := next pending octet
      written ++ decodeFrom under rest

/-- The text of octets, with U+FFFD for each maximal ill-formed part. -/
def decode (octets : List UInt8) : String := String.ofList (decodeFrom none octets)

def encode (text : String) : List UInt8 := text.toUTF8.toList

/-- The text that octets encode, if they are well formed. -/
def decodeExact? (octets : List UInt8) : Option String :=
  let text := decode octets
  if encode text = octets then some text else none

example : decode [0x61, 0xC3, 0xA9, 0xE2, 0x82, 0x41] = "a\u00e9\uFFFDA" := by decide +kernel

end ShadowIndex.Text.Utf8
