import Haptics.Device.Transport
import Haptics.System.Channel
import Haptics.System.Clock
import Haptics.System.Edit

/-!
# Hosts

A host is a file tree with the nodes that are open in it and a clock. `Host.transport` drives the
device nodes of a host: they are opened without waiting, and a read polls until its deadline.
-/

namespace Haptics

/-- An open node: what it is, how it was opened, and where the next read or write takes place. -/
structure Opening where
  node : NodeId
  readable : Bool
  position : Nat
  isOpen : Bool
  deriving DecidableEq, Repr

structure Host where
  tree : Tree
  openings : List Opening
  base : String
  nowMs : Nat

namespace Host

abbrev Handle := Nat

/-- The channel behind a handle, unless it was released. -/
def channel? (h : Host) (i : Handle) : Option (Opening × Channel) :=
  match h.openings[i]? with
  | none => none
  | some o =>
    if !o.isOpen then none
    else match h.tree.node? o.node with
      | some (.file content) => some (o, ⟨.file content o.position, o.readable⟩)
      | some (.pipe _ waiting) => some (o, ⟨.stream waiting, o.readable⟩)
      | some .full => some (o, ⟨.full, o.readable⟩)
      | _ => some (o, ⟨.sink, o.readable⟩)

def setChannel (h : Host) (i : Handle) (o : Opening) (c : Channel) : Host :=
  match c.source with
  | .stream waiting =>
    match h.tree.node? o.node with
    | some (.pipe held _) => { h with tree := h.tree.setNode o.node (.pipe held waiting) }
    | _ => h
  | .file content position =>
    { h with tree := h.tree.setNode o.node (.file content),
             openings := h.openings.set i { o with position := position } }
  | _ => h

/-- Whether somebody has a pipe open for reading. -/
def hasReader (h : Host) (node : NodeId) : Bool :=
  h.openings.any fun o => o.isOpen && o.readable && o.node == node

/-- The place of a node that may be opened for a connection. -/
def openable (h : Host) (c : Connection) (path : String) : Except IoError NodeId :=
  match h.tree.placeOf true h.base path with
  | .error e => .error e
  | .ok place =>
    match h.tree.node? place.id with
    | some (.folder _) => .error (.os Errno.isFolder)
    | node =>
      if h.tree.isDenied place.id then .error (.os Errno.accessDenied)
      else match node with
        | some .socket => .error (.os Errno.noSuchAddress)
        | some (.pipe held _) =>
          if c = .bolt || held || h.hasReader place.id then .ok place.id
          else .error (.os Errno.noSuchAddress)
        | _ => .ok place.id

/-- Opens a device node: read and write for Bolt, write-only for Bluetooth. -/
def acquire (c : Connection) (path : String) (h : Host) : Except IoError Handle × Host :=
  match h.openable c path with
  | .error e => (.error e, h)
  | .ok id =>
    (.ok h.openings.length, { h with openings := h.openings ++ [⟨id, c = .bolt, 0, true⟩] })

def noAnswer : IoError := .other "no HID++ response before timeout"

/-- The error of a wait whose deadline the clock cannot show. -/
def noDeadline : IoError := .other "overflow when adding duration to instant"

/-- Reads what a handle gives before a deadline. Nothing else acts on the host meanwhile, so that a
channel which would block does so until the deadline. -/
def read (i : Handle) (size : Nat) (timeoutMs : UInt64) (h : Host) : Except IoError Bytes × Host :=
  match Clock.deadline? h.nowMs timeoutMs with
  | none => (.error noDeadline, h)
  | some deadline =>
    match h.channel? i with
    | none => (.error (.os Errno.badDescriptor), h)
    | some (o, c) =>
      match c.read size with
      | (.error e, c) =>
        if e = .os Errno.wouldBlock then (.error noAnswer, { h with nowMs := deadline })
        else (.error e, h.setChannel i o c)
      | (.ok bs, c) => (.ok bs, h.setChannel i o c)

/-- Writes all of the bytes to a handle. -/
def write (i : Handle) (bs : Bytes) (h : Host) : Except IoError Unit × Host :=
  match h.channel? i with
  | none => (.error (.os Errno.badDescriptor), h)
  | some (o, c) =>
    match c.write bs with
    | (r, c) => (r, h.setChannel i o c)

/-- Drops what waits behind a handle and says how many reads that took. -/
def discard (i : Handle) (h : Host) : Nat × Host :=
  match h.channel? i with
  | none => (0, h)
  | some (o, c) =>
    match c.drain with
    | (n, c) => (n, h.setChannel i o c)

/-- Releases a handle. A pipe that nobody has open any more loses what waits in it. -/
def close (i : Handle) (h : Host) : Except IoError Unit × Host :=
  match h.openings[i]? with
  | none => (.error (.os Errno.badDescriptor), h)
  | some o =>
    if !o.isOpen then (.error (.os Errno.badDescriptor), h)
    else
      let h := { h with openings := h.openings.set i { o with isOpen := false } }
      match h.tree.node? o.node with
      | some (.pipe false _) =>
        if h.hasReader o.node then (.ok (), h)
        else (.ok (), { h with tree := h.tree.setNode o.node (.pipe false []) })
      | _ => (.ok (), h)

/-! ### What others do on a host -/

/-- The host after somebody else wrote to a pipe. -/
def push (path : String) (bs : Bytes) (h : Host) : Host :=
  match h.tree.placeOf true h.base path with
  | .error _ => h
  | .ok place =>
    match h.tree.node? place.id with
    | some (.pipe held waiting) => { h with tree := h.tree.setNode place.id (.pipe held (waiting ++ bs)) }
    | _ => h

/-- What is read at a path beside the devices: the content of a file, or what waits in a pipe that is held,
which is taken out of it. -/
def collect (path : String) (h : Host) : Option Bytes × Host :=
  match h.tree.placeOf true h.base path with
  | .error _ => (none, h)
  | .ok place =>
    match h.tree.node? place.id with
    | some (.file content) => (if h.tree.isDenied place.id then none else some content, h)
    | some (.pipe true waiting) =>
      (some waiting, { h with tree := h.tree.setNode place.id (.pipe true []) })
    | some .sink => (some [], h)
    | _ => (none, h)

/-- Whether somebody else could remove what a path leads to, and the host after it was removed. -/
def remove (path : String) (h : Host) : Bool × Host :=
  match h.tree.unlink h.base path with
  | .ok tree => (true, { h with tree := tree })
  | .error _ => (false, h)

/-! ### Devices -/

/-- A host on which nothing is open yet. -/
def idle (tree : Tree) (base : String) : Host := ⟨tree, [], base, 0⟩

/-- The device nodes of a host. -/
def transport : Transport Host Handle where
  acquire := acquire
  discard := discard
  write := write
  read := read
  close := close

end Host

end Haptics
