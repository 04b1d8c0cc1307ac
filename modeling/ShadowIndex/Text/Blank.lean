/-!
Contract: blank characters, the words of a text, and its normal form.

Owns:
- the class of blank characters;
- `words`, the maximal runs without a blank;
- `collapse` and `trim`, and `normalize`, which joins fragments into one text
  whose words are separated by single spaces.

Does not own: case folding, or where fragments come from.
-/

set_option autoImplicit false

namespace ShadowIndex.Text

/-- The ranges of blank characters: the white space of Unicode and the four information
separators U+001C to U+001F. -/
def blankRanges : List (Nat × Nat) :=
  [(0x09, 0x0D), (0x1C, 0x20), (0x85, 0x85), (0xA0, 0xA0), (0x1680, 0x1680),
   (0x2000, 0x200A), (0x2028, 0x2029), (0x202F, 0x202F), (0x205F, 0x205F), (0x3000, 0x3000)]

def inRanges (ranges : List (Nat × Nat)) (code : Nat) : Bool :=
  ranges.any fun range => decide (range.1 ≤ code) && decide (code ≤ range.2)

def isBlank (c : Char) : Bool := inRanges blankRanges c.toNat

theorem isBlank_space : isBlank ' ' = true := by decide

/-! ## Words -/

/-- The maximal runs of characters that are not blank, in order. -/
def words : List Char → List (List Char)
  | [] => []
  | c :: rest =>
      if isBlank c then words rest
      else
        match rest, words rest with
        | next :: _, word :: others =>
            if isBlank next then [c] :: word :: others else (c :: word) :: others
        | _, others => [c] :: others

/-! ## The normal form -/

/-- Gives every run of blanks one space. -/
def collapse : List Char → List Char
  | [] => []
  | c :: rest =>
      if isBlank c then
        if rest.head?.any isBlank then collapse rest else ' ' :: collapse rest
      else c :: collapse rest

def trimStart (text : List Char) : List Char := text.dropWhile isBlank

def trimEnd (text : List Char) : List Char := (text.reverse.dropWhile isBlank).reverse

def trim (text : List Char) : List Char := trimEnd (trimStart text)

/-- Joins texts, with one space between neighbours. -/
def joinSpaced (texts : List (List Char)) : List Char := [' '].intercalate texts

/-- One text from fragments: joined by spaces, runs of blanks collapsed, ends trimmed. -/
def normalizeChars (fragments : List (List Char)) : List Char :=
  trim (collapse (joinSpaced fragments))

/-- The normal form of fragments; see `normalizeChars`. -/
def normalize (fragments : List String) : String :=
  String.ofList (normalizeChars (fragments.map String.toList))

@[simp] theorem toList_normalize (fragments : List String) :
    (normalize fragments).toList = normalizeChars (fragments.map String.toList) := by
  simp [normalize]

example : words " ab\tc  ".toList = ["ab".toList, "c".toList] := by decide +kernel
example : normalize [" a", "b\n\nc "] = "a b c" := by decide +kernel

end ShadowIndex.Text
