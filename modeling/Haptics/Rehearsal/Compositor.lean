import Haptics.Events.Client
import Haptics.System.Socket

/-!
# Compositor rehearsals

The listener against a compositor that follows a script, on a clock that only moves while the script
waits. The compositor's socket stands in a file tree, in a folder of its own. What falls due before the
end of a wait happens in it; what falls due at its very end happens in the next wait.
-/

namespace Haptics.Rehearsal

open Events

/-- The listener's connection as the compositor sees it. -/
inductive Visit where
  | nobody
  /-- Connected, and not accepted yet. -/
  | knocking
  | accepted
  /-- Let go by the compositor, which the listener has yet to see. -/
  | leaving
  deriving DecidableEq, Repr

structure Compositor where
  nowMs : Nat
  settings : Settings
  client : Client
  isStarted : Bool
  isStopping : Bool
  /-- Whether somebody has yet to wait for the listener's end. -/
  isOwed : Bool
  tree : Tree
  socketPath : String
  soughtPath : String
  /-- The socket at which the compositor listens. -/
  listening : Option NodeId
  visit : Visit

inductive Scene where
  | start
  | bind
  | unbind
  | refuse
  | block
  | wait (ms : Nat)
  | accept (limitMs : Nat)
  | send (bs : Bytes)
  | close
  | configure (settings : Settings)
  | shutDown

/-- What a scene shows, apart from the time and the inbox. -/
structure View where
  connected : Option Bool
  ended : Option Bool

namespace Compositor

/-- A compositor without a socket, before the listener is started. -/
def new (settings : Settings) (inbox : Inbox) (tree : Tree) (socketPath soughtPath : String) : Compositor :=
  ⟨0, settings, .new inbox 0, false, false, false, tree, socketPath, soughtPath, none, .nobody⟩

def knock (c : Compositor) : Except IoError Unit :=
  match c.tree.findSocket "/" c.soughtPath with
  | .error e => .error e
  | .ok id => if c.listening = some id then .ok () else .error (.os Errno.connectionRefused)

def due? (c : Compositor) : Option Nat :=
  match c.client.task with
  | .connecting dueMs => if c.isStarted then some dueMs else none
  | _ => none

def attempt (c : Compositor) (timeMs : Nat) : Compositor :=
  let result := c.knock
  { c with nowMs := max c.nowMs timeMs, client := c.client.connect result timeMs,
           visit := if result.isOk then .knocking else c.visit }

/-- The attempts before `endMs`, at most `n` of them; each but the last one fails. -/
def attemptsBefore (endMs : Nat) : Nat → Compositor → Compositor
  | 0, c => c
  | n + 1, c =>
    match c.due? with
    | some dueMs => if dueMs < endMs then attemptsBefore endMs n (c.attempt dueMs) else c
    | none => c

def part (c : Compositor) : Compositor :=
  if c.visit = .leaving then
    { c with visit := .nobody, client := c.client.endOfStream c.settings c.nowMs }
  else c

/-- What happens before `endMs`. There is at most one attempt in a millisecond. -/
def runTo (endMs : Nat) (c : Compositor) : Compositor :=
  if c.nowMs < endMs then attemptsBefore endMs (endMs - c.nowMs + 1) c.part else c

def pass (ms : Nat) (c : Compositor) : Compositor :=
  { c.runTo (c.nowMs + ms) with nowMs := c.nowMs + ms }

def turnAway (c : Compositor) : Compositor := if c.visit = .knocking then { c with visit := .leaving } else c

def hangUp (c : Compositor) : Compositor := if c.visit = .accepted then { c with visit := .leaving } else c

def folder (c : Compositor) : String := (Path.parent? c.socketPath).getD "/"

/-- The tree without a node that is no folder, if there is one at the path. -/
def withoutNode (t : Tree) (path : String) : Tree := (t.unlink "/" path).toOption.getD t

/-- Listens at a new socket and no longer at a former one. A file in place of the folder is removed. -/
def bind (c : Compositor) : Compositor :=
  let tree := withoutNode ((withoutNode c.tree c.folder).withFolder c.folder) c.socketPath
  let tree := (tree.createSocket "/" c.socketPath).toOption.getD tree
  { c.turnAway with tree := tree, listening := (tree.findSocket "/" c.socketPath).toOption }

/-- Listens no longer; the socket stays. -/
def refuse (c : Compositor) : Compositor := { c.turnAway with listening := none }

/-- Listens no longer and removes the socket. -/
def unbind (c : Compositor) : Compositor := { c.refuse with tree := withoutNode c.tree c.socketPath }

/-- Puts a file in place of the folder. Whoever has connected before can still be accepted. -/
def block (c : Compositor) : Compositor :=
  let tree := (c.tree.removeAll "/" c.folder).toOption.getD c.tree
  { c with tree := (tree.put c.folder (.file [])).toOption.getD tree }

/-- Waits until the listener connects, and holds on to nobody who came before. There is nothing to wait for
if nobody listens. -/
def accept (limitMs : Nat) (c : Compositor) : Bool × Compositor :=
  if c.listening.isNone then (false, c.hangUp)
  else
    let endMs := c.nowMs + limitMs
    let c := if c.visit = .knocking then c else c.runTo endMs
    if c.visit = .knocking then (true, { c with visit := .accepted })
    else (false, { c with nowMs := endMs }.hangUp)

def play (c : Compositor) : Scene → View × Compositor
  | .start =>
    if c.isStarted then (⟨none, none⟩, c.pass 1)
    else
      let client := if c.isStopping then c.client.shutDown else ⟨c.client.listener, .connecting c.nowMs⟩
      (⟨none, none⟩, { c with isStarted := true, isOwed := true, client := client }.pass 1)
  | .bind => (⟨none, none⟩, c.bind)
  | .unbind => (⟨none, none⟩, c.unbind)
  | .refuse => (⟨none, none⟩, c.refuse)
  | .block => (⟨none, none⟩, c.block)
  | .wait ms => (⟨none, none⟩, c.pass ms)
  | .accept limitMs =>
    match c.accept limitMs with
    | (connected, c) => (⟨some connected, none⟩, c)
  | .send bs =>
    let client := if c.visit = .accepted then c.client.receive c.settings bs else c.client
    (⟨none, none⟩, { c with client := client }.pass 1)
  | .close => (⟨none, none⟩, c.hangUp.pass 1)
  | .configure settings => (⟨none, none⟩, { c with settings := settings })
  | .shutDown =>
    (⟨none, if c.isOwed then some true else none⟩,
      { c with isStopping := true, isOwed := false, client := c.client.shutDown })

end Compositor

end Haptics.Rehearsal
