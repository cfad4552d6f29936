import Haptics.Wire.Effect

/-!
# The inbox

Requests wait in a bounded queue, first in, first out. `request` never waits: an effect number out of
range is rejected, and an effect that finds no room, or nobody to take it, is dropped.
-/

namespace Haptics

/-- What became of a request. -/
inductive Receipt where
  | accepted
  /-- Discarded, because the inbox is full or closed. -/
  | dropped
  | rejected
  deriving DecidableEq, Repr

namespace Receipt

def name : Receipt → String
  | accepted => "accepted"
  | dropped => "dropped"
  | rejected => "rejected"

end Receipt

/-- A bounded queue of effects, with the counts of the requests that it took and dropped. -/
structure Inbox where
  capacity : Nat
  waiting : List Effect
  /-- Whether nobody will take effects from it any more. -/
  isClosed : Bool
  accepted : Nat
  dropped : Nat
  deriving DecidableEq, Repr

namespace Inbox

/-- The number of effects that a queue holds if nothing else is set. -/
def defaultCapacity : Nat := 10

/-- The most effects that a queue can be made for: an eighth of a 64-bit word's range. -/
def largestCapacity : Nat := (UInt64.size - 1) / 8

/-- An empty inbox for at least one effect, unless none can be made that large. -/
def ofCapacity? (capacity : Nat) : Option Inbox :=
  if max capacity 1 ≤ largestCapacity then some ⟨max capacity 1, [], false, 0, 0⟩ else none

def request (i : Inbox) (n : Int64) : Receipt × Inbox :=
  match Effect.ofNumber n with
  | .error _ => (.rejected, i)
  | .ok e =>
    if i.isClosed || i.capacity ≤ i.waiting.length then
      (.dropped, { i with dropped := i.dropped + 1 })
    else (.accepted, { i with waiting := i.waiting ++ [e], accepted := i.accepted + 1 })

def requestAll (i : Inbox) : List Int64 → List Receipt × Inbox
  | [] => ([], i)
  | n :: ns =>
    match i.request n with
    | (r, i) =>
      match i.requestAll ns with
      | (rs, i) => (r :: rs, i)

/-- The inbox after everything that waits was discarded and nothing more can be taken. -/
def close (i : Inbox) : Inbox := { i with waiting := [], isClosed := true }

end Inbox

end Haptics
