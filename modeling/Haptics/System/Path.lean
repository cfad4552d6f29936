import Haptics.Text.Split

/-!
# Paths

A path is text; slashes separate its names. Joining keeps the left side as written.
-/

namespace Haptics.Path

def isAbsolute (path : String) : Bool := path.toList.head? == some '/'

/-- A path below another. An absolute one replaces what precedes it, and a slash is added only where
none stands. -/
def join (base part : String) : String :=
  if isAbsolute part then part
  else if base.toList.getLast?.all (· == '/') then base ++ part
  else base ++ "/" ++ part

/-- The names along a path, those of no length left out. -/
def names (path : String) : List String :=
  ((Text.pieces '/' path.toList).filter (!·.isEmpty)).map String.ofList

/-- Whether a path ends with a slash, and so can only be a folder's. -/
def endsWithSlash (path : String) : Bool := path.toList.getLast? == some '/'

def ofNames (names : List String) : String :=
  if names.isEmpty then "/" else String.join (names.map ("/" ++ ·))

/-- The paths of the folders above an absolute path, the innermost first. -/
def ancestors (path : String) : List String :=
  let names := (names path).filter (· ≠ ".")
  (List.range names.length).reverse.map fun n => ofNames (names.take n)

/-- The folder in which the node at an absolute path without links stands; the root stands in none. -/
def parent? (path : String) : Option String :=
  match names path with
  | [] => none
  | ns => some (ofNames ns.dropLast)

end Haptics.Path
