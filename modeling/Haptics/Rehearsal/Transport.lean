import Haptics.Device.Mouse
import Haptics.System.Host

/-!
# Scripted transports

A transport whose answers are written down beforehand, for trying out mice without a device. It lives
beside the device nodes of a host, so that a mouse can lose a scripted handle and open a node.
-/

namespace Haptics.Rehearsal

structure Script where
  /-- The frames that wait before any command. -/
  stale : List Bytes
  /-- Whether waiting frames cannot be dropped. -/
  keepsStale : Bool
  /-- The results of the next writes; all later ones succeed. -/
  writes : List (Except IoError Unit)
  /-- The results of the next reads; all later ones fail. -/
  reads : List (Except IoError Bytes)
  /-- The result of releasing the handle. -/
  closing : Except IoError Unit

/-- The error of a read for which nothing is written down. -/
def silence : IoError := .other "timeout"

namespace Script

def write (s : Script) : Except IoError Unit × Script :=
  match s.writes with
  | [] => (.ok (), s)
  | r :: rest => (r, { s with writes := rest })

def read (size : Nat) (s : Script) : Except IoError Bytes × Script :=
  match s.stale, s.reads with
  | frame :: rest, _ => (.ok (frame.take size), { s with stale := rest })
  | [], r :: rest => (r.map (·.take size), { s with reads := rest })
  | [], [] => (.error silence, s)

def discard (s : Script) : Nat × Script :=
  if s.keepsStale then (0, s) else (s.stale.length, { s with stale := [] })

end Script

/-- A host with scripted handles beside its nodes. -/
structure Stage where
  host : Host
  scripts : List Script

inductive Grip where
  | node (handle : Host.Handle)
  | scripted (number : Nat)
  deriving DecidableEq, Repr

namespace Stage

def onHost {α : Type} (call : Host → α × Host) (s : Stage) : α × Stage :=
  match call s.host with
  | (a, host) => (a, { s with host := host })

/-- Runs a call on a scripted handle; one that is not there gives `missing`. -/
def onScript {α : Type} (number : Nat) (missing : α) (call : Script → α × Script) (s : Stage) : α × Stage :=
  match s.scripts[number]? with
  | none => (missing, s)
  | some script =>
    match call script with
    | (a, script) => (a, { s with scripts := s.scripts.set number script })

/-- The handles of a stage; opening a path always opens a node. -/
def transport : Transport Stage Grip where
  acquire c path s :=
    match s.host.acquire c path with
    | (.ok h, host) => (.ok (.node h), { s with host := host })
    | (.error e, host) => (.error e, { s with host := host })
  discard
    | .node h, s => s.onHost (Host.discard h)
    | .scripted n, s => s.onScript n 0 Script.discard
  write
    | .node h, report, s => s.onHost (Host.write h report)
    | .scripted n, _, s => s.onScript n (.ok ()) Script.write
  read
    | .node h, size, timeoutMs, s => s.onHost (Host.read h size timeoutMs)
    | .scripted n, size, _, s => s.onScript n (.error silence) (Script.read size)
  close
    | .node h, s => s.onHost (Host.close h)
    | .scripted n, s => s.onScript n (.ok ()) fun script => (script.closing, script)

end Stage

/-- A stage on which every call is recorded, and the mice on it. -/
abbrev World := Traced Stage

abbrev StageMouse := Mouse (Nat × Grip)

/-- The handles of a stage, with a record of the calls. -/
abbrev World.transport : Transport World (Nat × Grip) := Stage.transport.traced

/-- What has happened on a scripted handle. -/
structure Wire where
  writes : List Bytes
  readTimeouts : List UInt64
  discards : Nat
  closes : Nat
  stale : Nat

/-- What has happened on the scripted handle of a number; handle and script have the same one. -/
def World.wire (w : World) (number : Nat) : Wire :=
  let calls := w.callsOn number
  let script := w.world.scripts[number]?
  { writes := calls.filterMap Call.written?
    readTimeouts := calls.filterMap fun
      | .read _ timeoutMs _ => some timeoutMs
      | _ => none
    discards := if script.any (·.keepsStale) then 0 else calls.countP fun
      | .discard _ => true
      | _ => false
    closes := calls.countP fun
      | .close _ => true
      | _ => false
    stale := (script.map (·.stale.length)).getD 0 }

/-- A world in which nothing has happened and every script has its handle. -/
def World.start (host : Host) (scripts : List Script) : World :=
  Traced.start ⟨host, scripts⟩ scripts.length

/-- A change that somebody else makes on the host. -/
def World.onHost {α : Type} (call : Host → α × Host) (w : World) : α × World :=
  match w.world.onHost call with
  | (a, stage) => (a, { w with world := stage })

end Haptics.Rehearsal
