/-!
# Numerals

Whole numbers as text: decimal digits in both directions, and the readers for a signed 64-bit
decimal number and for an unsigned hexadecimal number below a bound.
-/

namespace Haptics.Text

/-- The value of an ASCII digit or letter as a digit, if it is below the radix. -/
def digitValue? (radix : Nat) (c : Char) : Option Nat :=
  let value :=
    if '0' ≤ c ∧ c ≤ '9' then some (c.toNat - '0'.toNat)
    else if 'a' ≤ c ∧ c ≤ 'z' then some (c.toNat - 'a'.toNat + 10)
    else if 'A' ≤ c ∧ c ≤ 'Z' then some (c.toNat - 'A'.toNat + 10)
    else none
  value.filter (· < radix)

/-- The number that a row of digits denotes, most significant first, continuing from `acc`. -/
def readDigitsFrom (radix : Nat) (acc : Nat) : List Char → Option Nat
  | [] => some acc
  | c :: cs => (digitValue? radix c).bind fun d => readDigitsFrom radix (acc * radix + d) cs

/-- The number that a non-empty row of digits denotes. -/
def readDigits? (radix : Nat) : List Char → Option Nat
  | [] => none
  | cs => readDigitsFrom radix 0 cs

def int64? (n : Int) : Option Int64 :=
  if Int64.minValue.toInt ≤ n ∧ n ≤ Int64.maxValue.toInt then some (Int64.ofInt n) else none

def uint64? (n : Nat) : Option UInt64 :=
  if n < UInt64.size then some (UInt64.ofNat n) else none

/-- A signed 64-bit decimal number: at most one sign, then digits only, and in range. -/
def readInt64? : List Char → Option Int64
  | '-' :: cs => (readDigits? 10 cs).bind fun n => int64? (-n)
  | '+' :: cs => (readDigits? 10 cs).bind fun n => int64? n
  | cs => (readDigits? 10 cs).bind fun n => int64? n

/-- A hexadecimal number below `bound`: at most one plus sign, then digits only. -/
def readHex? (bound : Nat) : List Char → Option Nat
  | '+' :: cs => (readDigits? 16 cs).filter (· < bound)
  | cs => (readDigits? 16 cs).filter (· < bound)

def decimalDigit (d : Nat) : Char := Char.ofNat ('0'.toNat + d)

/-- The decimal digits of a number, without leading zeros. -/
def decimal (n : Nat) : List Char :=
  if n < 10 then [decimalDigit n] else decimal (n / 10) ++ [decimalDigit (n % 10)]

/-- A whole number in decimal, a negative one with a minus sign. -/
def signedDecimal : Int → List Char
  | .ofNat n => decimal n
  | .negSucc n => '-' :: decimal (n + 1)

def showNat (n : Nat) : String := String.ofList (decimal n)

def showInt (n : Int) : String := String.ofList (signedDecimal n)

end Haptics.Text
