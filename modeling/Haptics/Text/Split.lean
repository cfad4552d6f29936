/-!
# Splitting a text

A text is cut at the first occurrence of a separator, or at every occurrence of a character.
-/

namespace Haptics.Text

/-- The texts before and after the first occurrence of `sep`. -/
def cutAtFirst? (sep : List Char) : List Char → Option (List Char × List Char)
  | [] => if sep.isEmpty then some ([], []) else none
  | c :: cs =>
    if sep.isPrefixOf (c :: cs) then some ([], (c :: cs).drop sep.length)
    else (cutAtFirst? sep cs).map fun (before, after) => (c :: before, after)

/-- Whether `part` occurs somewhere in the text. -/
def occursIn (part cs : List Char) : Bool := (cutAtFirst? part cs).isSome

/-- The pieces between the occurrences of `sep`; one more than there are occurrences. -/
def pieces (sep : Char) : List Char → List (List Char)
  | [] => [[]]
  | c :: cs =>
    match pieces sep cs with
    | [] => [[c]]
    | p :: ps => if c = sep then [] :: p :: ps else (c :: p) :: ps

end Haptics.Text
