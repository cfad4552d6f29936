import Haptics.Text.Extender
import Haptics.Text.Glyphless

/-!
# Quoted text

A text between double quotes, as diagnostics print it: double quotes, backslashes and all that cannot be
seen by itself are escaped.
-/

namespace Haptics.Text

/-- The hexadecimal digits of a number without leading zeros. -/
def hexadecimal (n : Nat) : List Char := Nat.toDigits 16 n

/-- The fillers of Hangul, the only letters that have nothing to draw. -/
def fillers : List Char := ['\u115F', '\u1160', '\u3164', '\uFFA0']

/-- The half-width sound marks, the only extenders that stand in a place of their own. -/
def soundMarks : List Char := ['\uFF9E', '\uFF9F']

example : fillers.all fun c => !isExtender c && !isGlyphless c := by decide +kernel

example : soundMarks.all isExtender := by decide +kernel

/-- Whether a character can be seen by itself, so that it needs no escape. -/
def isVisible (c : Char) : Bool :=
  (' ' ≤ c && c ≤ '~') || soundMarks.contains c ||
    !(isExtender c || isGlyphless c || fillers.contains c)

def quoteChar (c : Char) : List Char :=
  match c with
  | '"' => ['\\', '"']
  | '\\' => ['\\', '\\']
  | '\n' => ['\\', 'n']
  | '\r' => ['\\', 'r']
  | '\t' => ['\\', 't']
  | c =>
    if c.toNat = 0 then ['\\', '0']
    else if isVisible c then [c]
    else ['\\', 'u', '\x7b'] ++ hexadecimal c.toNat ++ ['\x7d']

def quoted (s : String) : String := String.ofList ('"' :: s.toList.flatMap quoteChar ++ ['"'])

end Haptics.Text
