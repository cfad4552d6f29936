import Haptics.System.Error
import Haptics.Bytes
import Haptics.Wire.Connection

/-!
# Transports

The calls that a mouse makes on a device node, as functions on the state of the world outside. A
session is written over such a record, so real nodes, scripted ones and arbitrary environments run
the same code. `Transport.traced` adds a record of every call to the world.
-/

namespace Haptics

/-- How device nodes are driven: `W` is the world outside, `H` the handles to open nodes. -/
structure Transport (W H : Type) where
  acquire : Connection → String → W → Except IoError H × W
  /-- Drops the reports that wait to be read and says how many there were. -/
  discard : H → W → Nat × W
  write : H → Bytes → W → Except IoError Unit × W
  /-- Reads one report into a buffer of the given size, waiting for at most the given milliseconds. -/
  read : H → Nat → UInt64 → W → Except IoError Bytes × W
  close : H → W → Except IoError Unit × W

/-- One call on an open handle, with its result. -/
inductive Call where
  | discard (count : Nat)
  | write (report : Bytes) (result : Except IoError Unit)
  | read (size : Nat) (timeoutMs : UInt64) (result : Except IoError Bytes)
  | close (result : Except IoError Unit)

namespace Call

def written? : Call → Option Bytes
  | write report (.ok ()) => some report
  | _ => none

end Call

/-- A world with a record of the calls made in it; handles are numbered in the order of acquisition. -/
structure Traced (W : Type) where
  world : W
  acquired : Nat
  calls : List (Nat × Call)

namespace Traced

variable {W : Type}

/-- A world in which `n` handles are held and no call has been made. -/
def start (world : W) (n : Nat) : Traced W := ⟨world, n, []⟩

def record (t : Traced W) (world : W) (handle : Nat) (call : Call) : Traced W :=
  { t with world := world, calls := t.calls ++ [(handle, call)] }

/-- The calls made on the handle of this number, in order. -/
def callsOn (t : Traced W) (handle : Nat) : List Call :=
  (t.calls.filter (·.1 = handle)).map (·.2)

end Traced

namespace Transport

variable {W H : Type}

/-- The same transport with a record of every call. -/
def traced (t : Transport W H) : Transport (Traced W) (Nat × H) where
  acquire c path s :=
    match t.acquire c path s.world with
    | (.ok h, w) => (.ok (s.acquired, h), { s with world := w, acquired := s.acquired + 1 })
    | (.error e, w) => (.error e, { s with world := w })
  discard h s :=
    match t.discard h.2 s.world with
    | (n, w) => (n, s.record w h.1 (.discard n))
  write h report s :=
    match t.write h.2 report s.world with
    | (r, w) => (r, s.record w h.1 (.write report r))
  read h size timeoutMs s :=
    match t.read h.2 size timeoutMs s.world with
    | (r, w) => (r, s.record w h.1 (.read size timeoutMs r))
  close h s :=
    match t.close h.2 s.world with
    | (r, w) => (r, s.record w h.1 (.close r))

end Transport

end Haptics
