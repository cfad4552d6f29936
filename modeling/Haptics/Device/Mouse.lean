import Haptics.Device.Error
import Haptics.Device.Transport
import Haptics.Text.Quoted
import Haptics.Wire.Frame

/-!
# The mouse

A mouse, as the program holds it, has at most one handle to its device node: `opened` acquires the handle,
`play` sends one effect and `closed` releases the handle. A mouse that vanished under `play` is terminal
and refuses all further use.
-/

namespace Haptics

/-- What came of sending an effect. -/
inductive Outcome where
  /-- Written over Bluetooth, where no answer comes. -/
  | written
  /-- Answered over Bolt by the device addressed. -/
  | answered (reply : Reply)
  /-- Answered over Bolt by another device of the same receiver. -/
  | uncorrelated
  deriving DecidableEq, Repr

namespace Mouse

/-- The life of a mouse. -/
inductive State where
  | unopened
  | opened
  | terminal
  deriving DecidableEq, Repr

def State.name : State → String
  | unopened => "Unopened"
  | opened => "Open"
  | terminal => "Terminal"

/-- The wait for a receiver's answer if nothing else is set, in milliseconds. -/
def defaultTimeoutMs : UInt64 := 100

end Mouse

/-- A mouse that is reached through a device node. -/
structure Mouse (H : Type) where
  connection : Connection
  path : String
  /-- The interface of the receiver; over Bolt only. -/
  index : Option UInt8
  /-- The wait for a receiver's answer, in milliseconds. -/
  timeoutMs : UInt64
  transport : Option H
  state : Mouse.State

namespace Mouse

variable {W H : Type}

def new (connection : Connection) (path : String) (index : Option UInt8) (timeoutMs : UInt64) :
    Mouse H :=
  ⟨connection, path, index, timeoutMs, none, .unopened⟩

/-- A mouse around a handle that is already open. -/
def holding (connection : Connection) (path : String) (index : Option UInt8) (timeoutMs : UInt64)
    (h : H) : Mouse H :=
  ⟨connection, path, index, timeoutMs, some h, .opened⟩

def debug (s : Mouse H) : String :=
  "DeviceSession \x7b connection: " ++ s.connection.displayName ++ ", path: " ++ Text.quoted s.path ++
    ", transport_index: " ++
    (match s.index with
      | none => "None"
      | some i => "Some(" ++ Text.showNat i.toNat ++ ")") ++
    ", state: " ++ s.state.name ++ " \x7d"

/-- The error for a node that could not be opened. A node that is gone counts as a disconnect. -/
def openError (path : String) (e : IoError) : DeviceError :=
  if e.isPermissionDenied then .permissionDenied path
  else if e.isNotFound || e.hasVanished then .disconnected e
  else .transport e

def opened (t : Transport W H) (s : Mouse H) (w : W) : Except DeviceError Unit × Mouse H × W :=
  match s.state with
  | .opened => (.ok (), s, w)
  | .terminal => (.error .spent, s, w)
  | .unopened =>
    match t.acquire s.connection s.path w with
    | (.ok h, w) => (.ok (), { s with transport := some h, state := .opened }, w)
    | (.error e, w) => (.error (openError s.path e), s, w)

/-- Releases the handle. That the device is already gone is no failure. -/
def closed (t : Transport W H) (s : Mouse H) (w : W) : Except DeviceError Unit × Mouse H × W :=
  let state := if s.state = .opened then .unopened else s.state
  match s.transport with
  | none => (.ok (), { s with state := state }, w)
  | some h =>
    match t.close h w with
    | (.ok (), w) => (.ok (), { s with state := state, transport := none }, w)
    | (.error e, w) =>
      (if e.hasVanished then .ok () else .error (.transport e),
        { s with state := state, transport := none }, w)

/-- The size of the buffer that an answer is read into. -/
def answerSize : Nat := Report.long.size

/-- What a received answer means to the sender of a command to `index`. -/
def correlate (index : UInt8) (answer : Bytes) : Except DeviceError Outcome :=
  match Reply.ofBytes answer with
  | .error e => .error (.ofWire e)
  | .ok reply => .ok (if reply.deviceIndex = index then .answered reply else .uncorrelated)

/-- Writes a command and reads the single answer. Reports that wait already are dropped first, so
that the answer read belongs to this command; any failure means that the receiver is gone. -/
def exchange (t : Transport W H) (h : H) (command : Bytes) (index : UInt8) (timeoutMs : UInt64) (w : W) :
    Except DeviceError Outcome × W :=
  let (_, w) := t.discard h w
  match t.write h command w with
  | (.error e, w) => (.error (.disconnected e), w)
  | (.ok (), w) =>
    match t.read h answerSize timeoutMs w with
    | (.error e, w) => (.error (.disconnected e), w)
    | (.ok answer, w) => (correlate index answer, w)

def post (t : Transport W H) (h : H) (command : Bytes) (w : W) : Except DeviceError Outcome × W :=
  match t.write h command w with
  | (.ok (), w) => (.ok .written, w)
  | (.error e, w) => (.error (if e.hasVanished then .disconnected e else .transport e), w)

def command (s : Mouse H) (e : Effect) : Frame := Frame.trigger s.connection s.index e

def transmit (t : Transport W H) (s : Mouse H) (h : H) (e : Effect) (w : W) :
    Except DeviceError Outcome × W :=
  match s.connection with
  | .bolt => exchange t h (s.command e).bytes (Frame.targetIndex s.index) s.timeoutMs w
  | .bluetooth => post t h (s.command e).bytes w

def isDisconnect : Except DeviceError Outcome → Bool
  | .error (.disconnected _) => true
  | _ => false

/-- Sends one effect. If the mouse turns out to be gone, the handle is released, whatever comes of
that, and the mouse is terminal. -/
def play (t : Transport W H) (s : Mouse H) (e : Effect) (w : W) :
    Except DeviceError Outcome × Mouse H × W :=
  match s.state with
  | .terminal => (.error .spent, s, w)
  | .unopened => (.error .notOpen, s, w)
  | .opened =>
    match s.transport with
    | none => (.error .notOpen, s, w)
    | some h =>
      match transmit t s h e w with
      | (result, w) =>
        if isDisconnect result then
          (result, { s with transport := none, state := .terminal }, (t.close h w).2)
        else (result, s, w)

/-- Sends the effect of a number; a number that is no effect's changes nothing. -/
def send (t : Transport W H) (s : Mouse H) (n : Int64) (w : W) :
    Except DeviceError Outcome × Mouse H × W :=
  match Effect.ofNumber n with
  | .error e => (.error (.ofWire e), s, w)
  | .ok e => play t s e w

end Mouse

end Haptics
