import Haptics.Bytes

/-!
# UTF-8

Reading octets as characters. `letters` marks what is no character; `decode?` accepts text without such
marks, and `decodeLossy` puts U+FFFD in their place, so that they agree on valid text.
-/

namespace Haptics

namespace Text

def replacement : Char := Char.ofNat 0xFFFD

/-- Whether an octet continues a character. -/
def isTail (b : UInt8) : Bool := 0x80 ≤ b && b ≤ 0xBF

/-- How many octets follow a first octet, and the interval that the next one is held to: overlong
forms, surrogates and values above U+10FFFF are ruled out by the second octet. -/
def lead? (b : UInt8) : Option (Nat × UInt8 × UInt8) :=
  if 0xC2 ≤ b && b ≤ 0xDF then some (1, 0x80, 0xBF)
  else if b == 0xE0 then some (2, 0xA0, 0xBF)
  else if b == 0xED then some (2, 0x80, 0x9F)
  else if 0xE1 ≤ b && b ≤ 0xEF then some (2, 0x80, 0xBF)
  else if b == 0xF0 then some (3, 0x90, 0xBF)
  else if 0xF1 ≤ b && b ≤ 0xF3 then some (3, 0x80, 0xBF)
  else if b == 0xF4 then some (3, 0x80, 0x8F)
  else none

/-- The bits that an octet adds to a code point. -/
def tailBits (b : UInt8) : Nat := b.toNat % 64

/-- The tails of a character that has `owed` of them left: its code point if all are there, and
the count of those read. -/
def tails : Nat → Nat → Nat → Bytes → Option Char × Nat
  | 0, acc, used, _ => (some (Char.ofNat acc), used)
  | owed + 1, acc, used, b :: bs =>
    if isTail b then tails owed (acc * 64 + tailBits b) (used + 1) bs else (none, used)
  | _ + 1, _, used, [] => (none, used)

/-- What the octet `b` and those behind it begin with: a character or an invalid prefix, and how
many octets behind `b` belong to it. -/
def front (b : UInt8) (bs : Bytes) : Option Char × Nat :=
  if b < 0x80 then (some (Char.ofNat b.toNat), 0)
  else match lead? b with
    | none => (none, 0)
    | some (owed, low, high) =>
      match bs with
      | [] => (none, 0)
      | c :: cs =>
        if low ≤ c && c ≤ high then
          tails (owed - 1) (b.toNat % (1 <<< (6 - owed)) * 64 + tailBits c) 1 cs
        else (none, 0)

/-- The characters of a byte string; `none` stands for a maximal invalid prefix. -/
def letters : Bytes → List (Option Char)
  | [] => []
  | b :: bs =>
    let (c?, used) := front b bs
    c? :: letters (bs.drop used)
termination_by bs => bs.length
decreasing_by simp only [List.length_drop, List.length_cons]; omega

/-- The characters of a byte string, each maximal invalid prefix read as U+FFFD. -/
def decodeLossy (bs : Bytes) : List Char := (letters bs).map (·.getD replacement)

/-- The characters of a byte string that is UTF-8 throughout. -/
def decode? (bs : Bytes) : Option (List Char) := (letters bs).mapM id

theorem decodeLossy_of_decode? {bs : Bytes} {cs : List Char} (h : decode? bs = some cs) :
    decodeLossy bs = cs := by
  unfold decode? at h
  unfold decodeLossy
  generalize letters bs = ls at *
  induction ls generalizing cs with
  | nil => simp_all
  | cons l ls ih =>
    cases l with
    | none => simp at h
    | some c =>
      simp only [List.mapM_cons, id_eq, Option.pure_def, Option.bind_eq_bind, Option.bind_some,
        Option.bind_eq_some_iff] at h
      obtain ⟨ds, hds, hcs⟩ := h
      simp_all

def encode (cs : List Char) : Bytes := cs.flatMap String.utf8EncodeChar

end Text

def Bytes.ofString (s : String) : Bytes := Text.encode s.toList

end Haptics
