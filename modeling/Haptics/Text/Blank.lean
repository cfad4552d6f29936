/-!
# White space

`isBlank` is the Unicode property White_Space; trimming and word splitting are by this class.
-/

namespace Haptics.Text

/-- The code points of White_Space, as closed intervals in ascending order. -/
def blankIntervals : List (Nat × Nat) :=
  [(0x09, 0x0D), (0x20, 0x20), (0x85, 0x85), (0xA0, 0xA0), (0x1680, 0x1680), (0x2000, 0x200A),
   (0x2028, 0x2029), (0x202F, 0x202F), (0x205F, 0x205F), (0x3000, 0x3000)]

def isBlank (c : Char) : Bool :=
  blankIntervals.any fun (low, high) => low ≤ c.toNat && c.toNat ≤ high

example : (blankIntervals.map fun (low, high) => high + 1 - low).sum = 25 := rfl

def trimLeft (cs : List Char) : List Char := cs.dropWhile isBlank

def trimRight (cs : List Char) : List Char := (cs.reverse.dropWhile isBlank).reverse

/-- The text without white space at either end. -/
def trim (cs : List Char) : List Char := trimRight (trimLeft cs)

/-- The first maximal run of characters that are not white space. -/
def firstWord? (cs : List Char) : Option (List Char) :=
  match (trimLeft cs).takeWhile (!isBlank ·) with
  | [] => none
  | w => some w

end Haptics.Text
