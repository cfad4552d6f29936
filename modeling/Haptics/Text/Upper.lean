import Haptics.Text.Split

/-!
# Searching without regard to case

Upper case as far as an ASCII text can tell: the letters of ASCII, and those other characters whose
upper case holds an ASCII letter. All other characters are left alone, since no spelling of theirs
can be part of an ASCII text.
-/

namespace Haptics.Text

/-- The characters outside ASCII whose full upper case holds an ASCII letter, with that upper case. -/
def upperIntoAscii : List (Char × List Char) :=
  [('ß', ['S', 'S']), ('ı', ['I']), ('ŉ', ['ʼ', 'N']), ('ſ', ['S']), ('ǰ', ['J', '\u030C']),
   ('ẖ', ['H', '\u0331']), ('ẗ', ['T', '\u0308']), ('ẘ', ['W', '\u030A']), ('ẙ', ['Y', '\u030A']),
   ('ẚ', ['A', 'ʾ']), ('ﬀ', ['F', 'F']), ('ﬁ', ['F', 'I']), ('ﬂ', ['F', 'L']), ('ﬃ', ['F', 'F', 'I']),
   ('ﬄ', ['F', 'F', 'L']), ('ﬅ', ['S', 'T']), ('ﬆ', ['S', 'T'])]

/-- The upper case of a character, as far as ASCII letters are concerned. -/
def upperChar (c : Char) : List Char := (upperIntoAscii.lookup c).getD [c.toUpper]

/-- The upper case of a text, as far as ASCII letters are concerned. -/
def upper (cs : List Char) : List Char := cs.flatMap upperChar

end Haptics.Text
