import Haptics.Events.Event
import Haptics.Settings.Basic
import Haptics.System.Path
import Haptics.Text.Utf8

/-!
# The listener

What the listener does with the compositor's stream: `split` cuts the bytes into lines, and `hear` turns
a line into a request, unless the event is a repeat or has no effect.
-/

namespace Haptics

namespace Events

def newline : UInt8 := 10

/-- The complete lines at the front of a byte string, each with its end, and what follows them. -/
def split : Bytes → List Bytes × Bytes
  | [] => ([], [])
  | b :: bs =>
    match split bs with
    | (lines, rest) =>
      if b = newline then ([b] :: lines, rest)
      else match lines with
        | [] => ([], b :: rest)
        | line :: lines => ((b :: line) :: lines, rest)

/-- The lines that a chunk completes, with the start of a line that was read before it, and the start of
a line that it leaves. -/
def feed (pending chunk : Bytes) : List Bytes × Bytes := split (pending ++ chunk)

/-- The lines that the end of a stream completes: what is left, unless it is empty. -/
def finish (pending : Bytes) : List Bytes := if pending.isEmpty then [] else [pending]

/-- The path of the compositor's socket for events. -/
def eventSocket (runtimeFolder signature : String) : String :=
  Path.join (Path.join (Path.join runtimeFolder "hypr") signature) ".socket2.sock"

/-- The name in the environment of the running compositor; an empty one stands for none. -/
def instance? (signature : Option String) : Option String := signature.filter (!·.isEmpty)

end Events

/-- What the listener works on: the events it remembers and the queue that it fills. -/
structure Listener where
  memory : Memory
  inbox : Inbox
  deriving DecidableEq

namespace Listener

def new (inbox : Inbox) : Listener := ⟨.empty, inbox⟩

/-- Takes one line: the effect of an event that is no repeat is asked for, if it has one. -/
def hear (s : Settings) (line : List Char) (l : Listener) : Option Receipt × Listener :=
  match Event.parse? line with
  | none => (none, l)
  | some e =>
    match l.memory.observe e with
    | (true, memory) => (none, { l with memory := memory })
    | (false, memory) =>
      match s.effectFor e.name e.argument with
      | none => (none, { l with memory := memory })
      | some n =>
        match l.inbox.request n with
        | (r, inbox) => (some r, ⟨memory, inbox⟩)

/-- Takes the bytes of several lines, those that are not text read as well as can be. -/
def hearAll (s : Settings) (lines : List Bytes) (l : Listener) : Listener :=
  lines.foldl (fun l line => (l.hear s (Text.decodeLossy line)).2) l

end Listener

end Haptics
