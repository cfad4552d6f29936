import Haptics.Command.Payload
import Haptics.System.Socket

/-!
# The command socket

The server's socket in the file tree: `bind` replaces what a former server left, and `release` removes the
socket when the server ends.
-/

namespace Haptics.Command

/-- The permissions of the socket: for its owner only. -/
def socketMode : Nat := 0o600

/-- The tree without what a former server left; nothing need be there. -/
def clear (t : Tree) (base path : String) : Except IoError Tree :=
  match t.unlink base path with
  | .ok t => .ok t
  | .error e => if e.isNotFound then .ok t else .error e

/-- Makes the socket of a server that begins. What a former server left is gone even if this fails later. -/
def bind (t : Tree) (base path : String) : Except IoError Unit × Tree :=
  match clear t base path with
  | .error e => (.error e, t)
  | .ok t =>
    match t.createSocket base path with
    | .error e => (.error e, t)
    | .ok t =>
      match t.chmod base path socketMode with
      | .error e => (.error e, t)
      | .ok t => (.ok (), t)

/-- The tree after a server ended; that its socket is gone already is no failure. -/
def release (t : Tree) (base path : String) : Tree := (t.unlink base path).toOption.getD t

end Haptics.Command
