import Haptics.Settings.NameMap
import Haptics.Text.Blank
import Haptics.Text.Split

/-!
# Events

The compositor reports an event as its name and an argument with `>>` between them. `Event.parse?` reads
such a line, and `Memory.observe` tells which events only repeat the one of that name before.
-/

namespace Haptics

structure Event where
  name : String
  argument : String
  deriving DecidableEq, Repr

namespace Event

/-- What stands between the name and the argument; further ones belong to the argument. -/
def separator : List Char := ['>', '>']

/-- The event on a line, white space at its ends aside. -/
def parse? (line : List Char) : Option Event :=
  (Text.cutAtFirst? separator (Text.trim line)).map fun (name, argument) =>
    ⟨String.ofList name, String.ofList argument⟩

/-- The names of the events that often come again unchanged. -/
def watched : List String := ["workspace", "activewindow", "focusedmon", "activewindowv2"]

end Event

structure Memory where
  last : NameMap String
  deriving DecidableEq

namespace Memory

def empty : Memory := ⟨.empty⟩

/-- Whether an event repeats the last one of its name, with the memory after it. Events that are not
watched never do and are not remembered. -/
def observe (m : Memory) (e : Event) : Bool × Memory :=
  if Event.watched.contains e.name then
    if m.last.get? e.name = some e.argument then (true, m) else (false, ⟨m.last.insert e.name e.argument⟩)
  else (false, m)

end Memory

end Haptics
