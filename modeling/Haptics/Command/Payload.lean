import Haptics.Delivery.Inbox
import Haptics.System.Error
import Haptics.Text.Blank
import Haptics.Text.Numeral
import Haptics.Text.Utf8

/-!
# Commands

What a client of the command socket asks for: the number that its payload begins with. A client is served by
a single read, so that what has not arrived by then is not looked at.
-/

namespace Haptics.Command

/-- The number in a payload: its first word, as far as the payload is text. -/
def parse? (payload : Bytes) : Option Int64 :=
  (Text.firstWord? (Text.decodeLossy payload)).bind Text.readInt64?

def messageLimit : Nat := 128

/-- Takes what was read from a client: the effect that it names is asked for, if it names one. -/
def hear (message : Bytes) (inbox : Inbox) : Option Receipt × Inbox :=
  match parse? message with
  | none => (none, inbox)
  | some n =>
    match inbox.request n with
    | (r, inbox) => (some r, inbox)

/-- What the first read from a client gives, of the portions in which its payload arrives: as much of the
first one as there is room for, or nothing at the end of the stream. -/
def firstRead : List (Except IoError Bytes) → Except IoError Bytes
  | [] => .ok []
  | .error e :: _ => .error e
  | .ok portion :: _ => .ok (portion.take messageLimit)

/-- Serves a client. If its payload cannot be read, nothing is asked for. -/
def serve (portions : List (Except IoError Bytes)) (inbox : Inbox) : Option Receipt × Inbox :=
  match firstRead portions with
  | .error _ => (none, inbox)
  | .ok message => hear message inbox

end Haptics.Command
