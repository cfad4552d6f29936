import Haptics.Events.Listener
import Haptics.System.Error

/-!
# The life of the listener

The listener connects to the compositor's socket, reads until the stream ends, and connects again after a
pause. Each thing that happens to it is a step: `connect`, `receive`, `endOfStream`, `readFailure` and
`shutDown`. What it remembers outlives a connection.
-/

namespace Haptics.Events

/-- What the listener waits for. -/
inductive Task where
  /-- The time to connect, in milliseconds. -/
  | connecting (dueMs : Nat)
  /-- The next bytes, after those of a line that is not complete. -/
  | reading (pending : Bytes)
  | stopped
  deriving DecidableEq, Repr

/-- The pause before connecting again if nobody can be reached, in milliseconds. -/
def unreachablePauseMs : Nat := 3000

/-- The pause before connecting again in all other cases, in milliseconds. -/
def closedPauseMs : Nat := 1000

/-- Whether nobody listens at a socket. -/
def isUnreachable (e : IoError) : Bool :=
  e == .os Errno.noEntry || e == .os Errno.connectionRefused

/-- The pause after an attempt to connect that failed, in milliseconds. -/
def pauseAfterMs (e : IoError) : Nat := if isUnreachable e then unreachablePauseMs else closedPauseMs

structure Client where
  listener : Listener
  task : Task
  deriving DecidableEq

namespace Client

def new (inbox : Inbox) (nowMs : Nat) : Client := ⟨.new inbox, .connecting nowMs⟩

def connect (result : Except IoError Unit) (nowMs : Nat) (c : Client) : Client :=
  match c.task with
  | .connecting _ =>
    match result with
    | .ok () => { c with task := .reading [] }
    | .error e => { c with task := .connecting (nowMs + pauseAfterMs e) }
  | _ => c

/-- Bytes have arrived: the lines that they complete are taken. -/
def receive (s : Settings) (chunk : Bytes) (c : Client) : Client :=
  match c.task with
  | .reading pending =>
    match feed pending chunk with
    | (lines, pending) => ⟨c.listener.hearAll s lines, .reading pending⟩
  | _ => c

/-- The stream has ended: what is left of it is taken as a line. -/
def endOfStream (s : Settings) (nowMs : Nat) (c : Client) : Client :=
  match c.task with
  | .reading pending => ⟨c.listener.hearAll s (finish pending), .connecting (nowMs + closedPauseMs)⟩
  | _ => c

/-- A read has failed: what is left of the stream is lost. -/
def readFailure (nowMs : Nat) (c : Client) : Client :=
  match c.task with
  | .reading _ => { c with task := .connecting (nowMs + closedPauseMs) }
  | _ => c

def shutDown (c : Client) : Client := { c with task := .stopped }

end Client

end Haptics.Events
