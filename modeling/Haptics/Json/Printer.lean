import Haptics.Json.Value
import Haptics.Text.Utf8

/-!
# Writing JSON

The text of a value without blanks. A quote, a backslash and the control characters are escaped, by one
letter where there is one. Octets that are no character become U+FFFD.
-/

namespace Haptics.Json

def hexDigit (d : Nat) : Char := if d < 10 then Char.ofNat (48 + d) else Char.ofNat (87 + d)

def showUnit (u : Nat) : List Char :=
  ['\\', 'u', hexDigit (u / 4096 % 16), hexDigit (u / 256 % 16), hexDigit (u / 16 % 16), hexDigit (u % 16)]

def showChar (c : Char) : List Char :=
  match c with
  | '"' => ['\\', '"']
  | '\\' => ['\\', '\\']
  | '\x08' => ['\\', 'b']
  | '\x0c' => ['\\', 'f']
  | '\n' => ['\\', 'n']
  | '\r' => ['\\', 'r']
  | '\t' => ['\\', 't']
  | c => if c < ' ' then showUnit c.toNat else [c]

def Piece.show : Piece → List Char
  | char c => showChar c
  | unit u => showUnit u.toNat
  | garbled => [Text.replacement]

def showString (s : List Piece) : List Char := '"' :: s.flatMap Piece.show ++ ['"']

/-- A number as it is spelled. -/
def Numeral.show (n : Numeral) : List Char :=
  (if n.negative then ['-'] else []) ++ n.whole ++ (if n.hasFraction then '.' :: n.fraction else []) ++
    match n.exponent with
    | none => []
    | some (negative, digits) => 'e' :: (if negative then '-' :: digits else digits)

mutual

def render : Json → List Char
  | null => ['n', 'u', 'l', 'l']
  | bool true => ['t', 'r', 'u', 'e']
  | bool false => ['f', 'a', 'l', 's', 'e']
  | number n => n.show
  | string s => showString s
  | array [] => ['[', ']']
  | array (v :: vs) => '[' :: render v ++ renderItems vs
  | object [] => ['\x7b', '\x7d']
  | object ((k, v) :: ms) => '\x7b' :: showString k ++ ':' :: render v ++ renderMembers ms

/-- The further items of an array and its closing bracket. -/
def renderItems : List Json → List Char
  | [] => [']']
  | v :: vs => ',' :: render v ++ renderItems vs

/-- The further members of an object and its closing brace. -/
def renderMembers : List (List Piece × Json) → List Char
  | [] => ['\x7d']
  | (k, v) :: ms => ',' :: showString k ++ ':' :: render v ++ renderMembers ms

end

end Haptics.Json
