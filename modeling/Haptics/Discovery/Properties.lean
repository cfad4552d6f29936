import Haptics.Text.Blank
import Haptics.Text.Numeral
import Haptics.Text.Split
import Haptics.Text.Upper

/-!
# Device properties

The kernel describes a device by lines of the form `KEY=value`, one of which holds the bus, the vendor and
the product as hexadecimal numbers. `value?` looks a key up, `Identity.parse?` reads the numbers, and
`mentions` searches for one of their two usual spellings.
-/

namespace Haptics.Discovery

/-- The key and the value on a line, without white space around them; none without an equals sign. -/
def property? (line : List Char) : Option (List Char × List Char) :=
  (Text.cutAtFirst? ['='] line).map fun (key, value) => (Text.trim key, Text.trim value)

def properties (text : List Char) : List (List Char × List Char) :=
  (Text.pieces '\n' text).filterMap property?

/-- The value of the first property with a key. -/
def value? (key text : List Char) : Option (List Char) := (properties text).lookup key

def identityKey : List Char := "HID_ID".toList

def nameKey : List Char := "HID_NAME".toList

/-- The numbers that identify a device. -/
structure Identity where
  bus : Nat
  vendor : Nat
  product : Nat
  deriving DecidableEq, Repr

namespace Identity

/-- One more than the largest number in an identity. -/
def bound : Nat := UInt32.size

/-- Three hexadecimal numbers with colons between them; what follows a third colon is not looked at. -/
def parse? (value : List Char) : Option Identity :=
  match (Text.pieces ':' value).map fun part => Text.readHex? bound (Text.trim part) with
  | some bus :: some vendor :: some product :: _ => some ⟨bus, vendor, product⟩
  | _ => none

/-- The hexadecimal digits of a number, in upper case, at least four of them. -/
def digits (n : Nat) : List Char := ((Nat.toDigits 16 n).map Char.toUpper).leftpad 4 '0'

/-- The numbers as text, with `fill` before the vendor and the product. -/
def written (fill : List Char) (i : Identity) : List Char :=
  digits i.bus ++ ':' :: fill ++ digits i.vendor ++ ':' :: fill ++ digits i.product

def spelling (fill : List Char) (i : Identity) : List Char := identityKey ++ '=' :: i.written fill

def zeros : List Char := ['0', '0', '0', '0']

end Identity

/-- Whether an identity is spelled somewhere in a text, in either way and in any case. -/
def mentions (i : Identity) (text : List Char) : Bool :=
  Text.occursIn (i.spelling []) (Text.upper text) || Text.occursIn (i.spelling Identity.zeros) (Text.upper text)

end Haptics.Discovery
