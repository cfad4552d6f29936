import Haptics.Delivery.Inbox
import Haptics.Delivery.Courier
import Haptics.Text.Numeral

/-!
# The depot

The depot joins the inbox, its consumer and the courier. Producers, the consumer and whoever starts and
stops it act in any order, so each of their acts is a step of its own: `request`, `start`, `look`, `take`,
`proceed`, `crash`, `leave`, `signal`, `join` and `abandon`. The consumer looks whether it was told to stop
before it takes an effect, so the signal may come between the two. Stopping is `signal`, then what the
consumer still has to do, then `join`.
-/

namespace Haptics

/-- The effects that deliveries ended with, by their result. -/
structure Tally where
  delivered : Nat
  abandoned : Nat
  deriving DecidableEq, Repr

namespace Tally

def processed (t : Tally) : Nat := t.delivered + t.abandoned

def count (t : Tally) : Except DeviceError Outcome → Tally
  | .ok _ => { t with delivered := t.delivered + 1 }
  | .error _ => { t with abandoned := t.abandoned + 1 }

end Tally

/-- Where the courier is in the depot's life. -/
inductive Phase (D : Type) where
  | pending (courier : Courier D)
  /-- The consumer has to look whether it was told to stop. -/
  | idle (courier : Courier D)
  /-- The consumer was not told to stop when it last looked, and waits for the next effect. -/
  | waiting (courier : Courier D)
  | delivering (courier : Courier D) (effect : Effect) (stage : Courier.Stage)
  /-- The consumer has seen that it was told to stop. -/
  | leaving (courier : Courier D)
  /-- The consumer has ended; after a crash it left no courier. -/
  | ended (courier : Option (Courier D))
  | gone

/-- The queue, its consumer and, through it, the device. -/
structure Depot (D : Type) where
  inbox : Inbox
  tally : Tally
  phase : Phase D
  isStopping : Bool
  /-- Whether a consumer was started and has not been waited for. -/
  isRunning : Bool
  /-- The effects that were waiting when the inbox was closed. -/
  discarded : Nat

namespace Depot

variable {W D : Type}

/-- A depot that has not been started, unless its inbox cannot be made that large. -/
def ofCapacity? (capacity : Nat) (preferred : Option Connection) (device : Option D) :
    Option (Depot D) :=
  (Inbox.ofCapacity? capacity).map fun inbox =>
    ⟨inbox, ⟨0, 0⟩, .pending (.new preferred device), false, false, 0⟩

def request (d : Depot D) (n : Int64) : Receipt × Depot D :=
  match d.inbox.request n with
  | (r, inbox) => (r, { d with inbox := inbox })

def requestAll (d : Depot D) (ns : List Int64) : List Receipt × Depot D :=
  match d.inbox.requestAll ns with
  | (rs, inbox) => (rs, { d with inbox := inbox })

/-- Starts the consumer, once. -/
def start (d : Depot D) : Depot D :=
  match d.phase with
  | .pending k => { d with phase := .idle k, isRunning := true }
  | _ => d

/-- The consumer looks whether it was told to stop. -/
def look (d : Depot D) : Depot D :=
  match d.phase with
  | .idle k | .waiting k => { d with phase := if d.isStopping then .leaving k else .waiting k }
  | _ => d

def take (d : Depot D) : Depot D :=
  match d.phase, d.inbox.waiting with
  | .waiting k, e :: rest =>
    { d with inbox := { d.inbox with waiting := rest }, phase := .delivering k e k.begin }
  | _, _ => d

def reached (d : Depot D) (e : Effect) (progress : Courier.Progress) (k : Courier D) : Depot D :=
  match progress with
  | .next stage => { d with phase := .delivering k e stage }
  | .ended r => { d with phase := .idle k, tally := d.tally.count r }

/-- The stage of the delivery that is under way ends. -/
def proceed (env : Devices W D) (d : Depot D) (w : W) : Depot D × W :=
  match d.phase with
  | .delivering k e stage =>
    match k.proceed env stage e w with
    | (progress, k, w) => (d.reached e progress k, w)
  | _ => (d, w)

def closeInbox (d : Depot D) : Depot D :=
  { d with inbox := d.inbox.close, discarded := d.discarded + d.inbox.waiting.length }

/-- A call on a device brings the consumer down in the middle of a delivery: the courier is lost with it. -/
def crash (d : Depot D) : Depot D :=
  match d.phase with
  | .delivering .. => { d.closeInbox with phase := .ended none }
  | _ => d

def leave (d : Depot D) : Depot D :=
  match d.phase with
  | .leaving k => { d.closeInbox with phase := .ended (some k) }
  | _ => d

def signal (d : Depot D) : Depot D := { d with isStopping := true, isRunning := false }

/-- The end of stopping: once the consumer has ended, or if there never was one, the device is closed. -/
def join (env : Devices W D) (d : Depot D) (w : W) : Depot D × W :=
  match d.phase with
  | .pending k => ({ d.closeInbox with phase := .gone }, k.release env w)
  | .ended (some k) => ({ d with phase := .gone }, k.release env w)
  | .ended none => ({ d with phase := .gone }, w)
  | _ => (d, w)

/-- Gives up the depot without waiting for its consumer; its device is not closed. -/
def abandon (d : Depot D) : Depot D :=
  match d.phase with
  | .pending _ => { d.closeInbox with phase := .gone, isStopping := true, isRunning := false }
  | _ => d.signal

def inFlight? (d : Depot D) : Option Effect :=
  match d.phase with
  | .delivering _ e _ => some e
  | _ => none

def debug (d : Depot D) : String :=
  "HapticHandle \x7b queue_len: " ++ Text.showNat d.inbox.waiting.length ++
    ", capacity: " ++ Text.showNat d.inbox.capacity ++
    ", stats: DispatchStats \x7b accepted: " ++ Text.showNat d.inbox.accepted ++
    ", dropped: " ++ Text.showNat d.inbox.dropped ++
    ", delivered: " ++ Text.showNat d.tally.delivered ++
    ", abandoned: " ++ Text.showNat d.tally.abandoned ++ " \x7d \x7d"

end Depot

end Haptics
