/-!
Contract: case maps of words in ASCII.

Owns: `lowerWord` and `upperWord`, the case maps of ASCII letters and of the three other
characters whose case form is one ASCII letter: the Kelvin sign, the dotless i and the long s.

Does not own: case folding of searched text.
-/

set_option autoImplicit false

namespace ShadowIndex.Text

def kelvinSign : Char := '\u212a'

def dotlessI : Char := '\u0131'

def longS : Char := '\u017f'

def lowerLetter (c : Char) : Char := if c = kelvinSign then 'k' else c.toLower

def upperLetter (c : Char) : Char :=
  if c = dotlessI then 'I' else if c = longS then 'S' else c.toUpper

/-- The lower-case form of a word, for comparison with words in ASCII. -/
def lowerWord (word : String) : String := word.map lowerLetter

/-- The upper-case form of a word, for comparison with words in ASCII. -/
def upperWord (word : String) : String := word.map upperLetter

end ShadowIndex.Text
