import Haptics.Json.Value
import Haptics.Text.Utf8

/-!
# Reading JSON

`Json.read?` reads a document, which is one value with blanks around it. Nothing beyond the grammar is
asked of strings and numbers here: a string may even hold octets that are no character.
-/

namespace Haptics.Json

/-- A text as it is read: its characters, with `none` for octets that are none. -/
abbrev Letters := List (Option Char)

def isBlank (l : Option Char) : Bool := l == ' ' || l == '\t' || l == '\n' || l == '\r'

def skipBlanks (ls : Letters) : Letters := ls.dropWhile isBlank

/-! ### Tokens -/

/-- The character that a one-letter escape stands for. -/
def escaped? : Char → Option Char
  | '"' => some '"'
  | '\\' => some '\\'
  | '/' => some '/'
  | 'b' => some '\x08'
  | 'f' => some '\x0c'
  | 'n' => some '\n'
  | 'r' => some '\r'
  | 't' => some '\t'
  | _ => none

/-- The rest of a string behind its opening quote, up to and without its closing one. -/
def readString : Letters → Option (List Piece × Letters)
  | [] => none
  | some '"' :: ls => some ([], ls)
  | some '\\' :: some 'u' :: some a :: some b :: some c :: some d :: ls =>
    (Text.readDigits? 16 [a, b, c, d]).bind fun u =>
      (readString ls).map fun (ps, rest) => (.unit (UInt16.ofNat u) :: ps, rest)
  | some '\\' :: some e :: ls =>
    (escaped? e).bind fun c => (readString ls).map fun (ps, rest) => (.char c :: ps, rest)
  | some '\\' :: _ => none
  | some c :: ls => if c < ' ' then none else (readString ls).map fun (ps, rest) => (.char c :: ps, rest)
  | none :: ls => (readString ls).map fun (ps, rest) => (.garbled :: ps, rest)

def isDigit (l : Option Char) : Bool := l.any Char.isDigit

/-- A row of digits that is not empty. -/
def readDigits (ls : Letters) : Option (List Char × Letters) :=
  match (ls.takeWhile isDigit).filterMap id with
  | [] => none
  | ds => some (ds, ls.dropWhile isDigit)

/-- The digits before the point: a zero alone, or digits that do not begin with one. -/
def readWhole : Letters → Option (List Char × Letters)
  | some '0' :: ls => if (ls.head?.all fun l => !isDigit l) then some (['0'], ls) else none
  | ls => readDigits ls

/-- The point and the digits behind it, if there is a point. -/
def readFraction : Letters → Option ((List Char × Bool) × Letters)
  | some '.' :: ls => (readDigits ls).map fun (ds, rest) => ((ds, true), rest)
  | ls => some (([], false), ls)

/-- The exponent, if there is one: whether it is negative, and its digits. -/
def readExponent : Letters → Option (Option (Bool × List Char) × Letters)
  | l :: ls =>
    if l = 'e' ∨ l = 'E' then
      match ls with
      | some '-' :: ls => (readDigits ls).map fun (ds, rest) => (some (true, ds), rest)
      | some '+' :: ls => (readDigits ls).map fun (ds, rest) => (some (false, ds), rest)
      | ls => (readDigits ls).map fun (ds, rest) => (some (false, ds), rest)
    else some (none, l :: ls)
  | [] => some (none, [])

def readUnsigned (negative : Bool) (ls : Letters) : Option (Numeral × Letters) :=
  (readWhole ls).bind fun (whole, ls) =>
    (readFraction ls).bind fun ((fraction, hasFraction), ls) =>
      (readExponent ls).map fun (exponent, ls) => (⟨negative, whole, fraction, hasFraction, exponent⟩, ls)

def readNumeral : Letters → Option (Numeral × Letters)
  | some '-' :: ls => readUnsigned true ls
  | ls => readUnsigned false ls

/-- The text behind a word, if it begins with that word. -/
def readWord : List Char → Letters → Option Letters
  | [], ls => some ls
  | c :: cs, l :: ls => if l = c then readWord cs ls else none
  | _ :: _, [] => none

/-! ### Values -/

mutual

/-- A value and the text behind it. -/
def readValue : Nat → Letters → Option (Json × Letters)
  | 0, _ => none
  | fuel + 1, ls =>
    match skipBlanks ls with
    | some '{' :: ls =>
      match skipBlanks ls with
      | some '}' :: ls => some (.object [], ls)
      | ls => (readMembers fuel ls).map fun (ms, rest) => (.object ms, rest)
    | some '[' :: ls =>
      match skipBlanks ls with
      | some ']' :: ls => some (.array [], ls)
      | ls => (readItems fuel ls).map fun (vs, rest) => (.array vs, rest)
    | some '"' :: ls => (readString ls).map fun (s, rest) => (.string s, rest)
    | some 'n' :: ls => (readWord ['u', 'l', 'l'] ls).map fun rest => (.null, rest)
    | some 't' :: ls => (readWord ['r', 'u', 'e'] ls).map fun rest => (.bool true, rest)
    | some 'f' :: ls => (readWord ['a', 'l', 's', 'e'] ls).map fun rest => (.bool false, rest)
    | ls => (readNumeral ls).map fun (n, rest) => (.number n, rest)

/-- The items of an array, at least one, up to and without its closing bracket. -/
def readItems : Nat → Letters → Option (List Json × Letters)
  | 0, _ => none
  | fuel + 1, ls =>
    match readValue fuel ls with
    | none => none
    | some (v, ls) =>
      match skipBlanks ls with
      | some ']' :: ls => some ([v], ls)
      | some ',' :: ls => (readItems fuel ls).map fun (vs, rest) => (v :: vs, rest)
      | _ => none

/-- The members of an object, at least one, up to and without its closing brace. -/
def readMembers : Nat → Letters → Option (List (List Piece × Json) × Letters)
  | 0, _ => none
  | fuel + 1, ls =>
    match skipBlanks ls with
    | some '"' :: ls =>
      match readString ls with
      | none => none
      | some (k, ls) =>
        match skipBlanks ls with
        | some ':' :: ls =>
          match readValue fuel ls with
          | none => none
          | some (v, ls) =>
            match skipBlanks ls with
            | some '}' :: ls => some ([(k, v)], ls)
            | some ',' :: ls => (readMembers fuel ls).map fun (ms, rest) => ((k, v) :: ms, rest)
            | _ => none
        | _ => none
    | _ => none

end

/-- The document in a byte string. Every two calls of the readers above take a letter, which bounds their
nesting. -/
def read? (bs : Bytes) : Option Json :=
  match Text.letters bs with
  | ls =>
    match readValue (2 * ls.length + 2) ls with
    | some (v, rest) => if (skipBlanks rest).isEmpty then some v else none
    | none => none

end Haptics.Json
