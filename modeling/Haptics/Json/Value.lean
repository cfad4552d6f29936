import Haptics.Text.Numeral

/-!
# JSON values

A value keeps the spelling of its strings and numbers, since a reader that skips a value asks less of
them than one that uses it. `string?` and `integer?` say what a spelling means, `isSound` whether all
spellings in a value mean something.
-/

namespace Haptics

namespace Json

/-- A part of a string as it is spelled. -/
inductive Piece where
  | char (c : Char)
  | unit (u : UInt16)
  /-- Octets that are no character. -/
  | garbled
  deriving DecidableEq, Repr

/-- A number as it is spelled; `exponent` says whether it is negative. -/
structure Numeral where
  negative : Bool
  whole : List Char
  fraction : List Char
  hasFraction : Bool
  exponent : Option (Bool × List Char)
  deriving DecidableEq, Repr

end Json

/-- A JSON value as it is spelled. -/
inductive Json where
  | null
  | bool (b : Bool)
  | number (n : Json.Numeral)
  | string (s : List Json.Piece)
  | array (items : List Json)
  | object (members : List (List Json.Piece × Json))

namespace Json

/-! ### Strings -/

def isHigh (u : UInt16) : Bool := 0xD800 ≤ u && u ≤ 0xDBFF

def isLow (u : UInt16) : Bool := 0xDC00 ≤ u && u ≤ 0xDFFF

def pair (high low : UInt16) : Char :=
  Char.ofNat (0x10000 + (high.toNat - 0xD800) * 0x400 + (low.toNat - 0xDC00))

/-- The characters that a spelling means, unless it has octets that are no character or a surrogate that is
not in a pair. -/
def characters? : List Piece → Option (List Char)
  | [] => some []
  | .char c :: ps => (characters? ps).map (c :: ·)
  | .garbled :: _ => none
  | .unit u :: ps =>
    if isHigh u then
      match ps with
      | .unit v :: ps => if isLow v then (characters? ps).map (pair u v :: ·) else none
      | _ => none
    else if isLow u then none
    else (characters? ps).map (Char.ofNat u.toNat :: ·)

def string? (s : List Piece) : Option String := (characters? s).map String.ofList

def ofString (s : String) : List Piece := s.toList.map .char

/-! ### Numbers -/

namespace Numeral

/-- The whole number that a spelling means; a fraction, an exponent or a negative zero means none. -/
def integer? (n : Numeral) : Option Int :=
  if n.hasFraction || n.exponent.isSome then none
  else match n.negative, Text.readDigits? 10 n.whole with
    | _, none => none
    | false, some value => some value
    | true, some value => if value = 0 then none else some (-value)

def ofInt (n : Int) : Numeral := ⟨n < 0, Text.decimal n.natAbs, [], false, none⟩

/-- The number that the leading digits denote as far as it fits 64 bits, continuing from `acc`, and how
many of the digits that took. -/
def leading (acc : Nat) : List Char → Nat × Nat
  | [] => (acc, 0)
  | c :: cs =>
    let next := acc * 10 + (Text.digitValue? 10 c).getD 0
    if next < UInt64.size then
      match leading next cs with
      | (value, used) => (value, used + 1)
    else (acc, 0)

/-- The number times a power of ten that a spelling means, after digits that do not fit 64 bits were
left out. -/
def scaled (n : Numeral) : Nat × Int :=
  match leading 0 n.whole with
  | (value, used) =>
    match leading value n.fraction with
    | (value, usedBehind) =>
      let shift := (n.whole.length : Int) - used - usedBehind
      match n.exponent with
      | none => (value, shift)
      | some (negative, digits) =>
        let e : Int := (Text.readDigits? 10 digits).getD 0
        (value, if negative then shift - e else shift + e)

/-- The nearest number with at most 53 significant bits, on a tie the one with an even last bit. -/
def round53 (n : Nat) : Nat :=
  let unit := 1 <<< (n.log2 - 52)
  let low := n / unit * unit
  let twice := 2 * (n - low)
  if twice < unit ∨ (twice = unit ∧ (n / unit) % 2 = 0) then low else low + unit

/-- The least product of two such numbers that is too large for a double. -/
def doubleLimit : Nat := 1 <<< 1024 - 1 <<< 970

/-- Whether the number is small enough for a double. -/
def isFinite (n : Numeral) : Bool :=
  match n.scaled with
  | (0, _) => true
  | (_, .negSucc _) => true
  | (value, .ofNat e) => e ≤ 308 && round53 value * round53 (Nat.pow 10 e) < doubleLimit

end Numeral

/-! ### Values -/

mutual

/-- How deeply arrays and objects are nested in a value. -/
def depth : Json → Nat
  | array items => depthOfItems items + 1
  | object members => depthOfMembers members + 1
  | _ => 0

def depthOfItems : List Json → Nat
  | [] => 0
  | v :: vs => max (depth v) (depthOfItems vs)

def depthOfMembers : List (List Piece × Json) → Nat
  | [] => 0
  | (_, v) :: ms => max (depth v) (depthOfMembers ms)

end

mutual

/-- Whether every string in a value means a text and every number is small enough for a double. -/
def isSound : Json → Bool
  | null | bool _ => true
  | number n => n.isFinite
  | string s => (string? s).isSome
  | array items => areSound items
  | object members => areMembersSound members

def areSound : List Json → Bool
  | [] => true
  | v :: vs => isSound v && areSound vs

/-- Whether the keys and values of all members of an object are sound. -/
def areMembersSound : List (List Piece × Json) → Bool
  | [] => true
  | (k, v) :: ms => (string? k).isSome && isSound v && areMembersSound ms

end

def text? : Json → Option String
  | string s => string? s
  | _ => none

def int? : Json → Option Int
  | number n => n.integer?
  | _ => none

def int64? (v : Json) : Option Int64 := v.int?.bind Text.int64?

def uint64? (v : Json) : Option UInt64 :=
  match v.int? with
  | some (.ofNat n) => Text.uint64? n
  | _ => none

def ofInt (n : Int) : Json := number (.ofInt n)

def ofText (s : String) : Json := string (ofString s)

def ofMembers (members : List (String × Json)) : Json :=
  object (members.map fun (k, v) => (ofString k, v))

/-- The members of an object by the texts of their keys. -/
def members? : Json → Option (List (String × Json))
  | object members => members.mapM fun (k, v) => (string? k).map (·, v)
  | _ => none

/-- The values of the named fields of a record. It is written as an object, in which no named field may
occur twice and others are skipped, or as an array of the first fields in order. -/
def fields? (names : List String) : Json → Option (List (Option Json))
  | array items =>
    if items.length ≤ names.length then
      some (items.map some ++ List.replicate (names.length - items.length) none)
    else none
  | v => (members? v).bind fun members =>
    names.mapM fun name =>
      match members.filter (·.1 = name) with
      | [] => some none
      | [(_, v)] => some (some v)
      | _ => none

end Json

end Haptics
