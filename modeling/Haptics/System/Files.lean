import Haptics.System.Tree
import Haptics.Text.Utf8

/-!
# Files to read

What a program that only looks sees of a file tree. A search written over such a view does not depend on
the order in which a folder names its entries, unless it sorts them.
-/

namespace Haptics

/-- The answers to the questions that a reader asks about paths. -/
structure Files where
  names : String → Except IoError (List String)
  content : String → Except IoError Bytes
  canonical : String → Except IoError String
  isThere : String → Bool

namespace Files

/-- The content of a file that is text. -/
def text? (f : Files) (path : String) : Option (List Char) :=
  match f.content path with
  | .ok bs => Text.decode? bs
  | .error _ => none

/-- The names in a folder in ascending order; none if it cannot be read. -/
def sortedNames (f : Files) (path : String) : List String :=
  match f.names path with
  | .ok names => names.mergeSort fun a b => !decide (b < a)
  | .error _ => []

end Files

/-- What is seen of a tree; relative paths start at `base`. -/
def Tree.files (t : Tree) (base : String) : Files where
  names := t.namesAt base
  content := t.contentAt base
  canonical path := (t.placeOf true base path).map Tree.Place.path
  isThere := t.exists? base

end Haptics
