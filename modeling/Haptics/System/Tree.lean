import Haptics.Bytes
import Haptics.System.Error
import Haptics.System.Path

/-!
# File trees

A tree of folders, files, links, named pipes, sockets and two endless devices, and how a path leads
to a node in it. Nodes are numbered and a number is never used again, so that a handle to a removed
node keeps its meaning. Node 0 is the root.
-/

namespace Haptics

abbrev NodeId := Nat

/-- What stands at a place of the tree. -/
inductive Node where
  | file (content : Bytes)
  | folder (entries : List (String × NodeId))
  | link (target : String)
  /-- A named pipe with the bytes that wait in it; `held` if somebody else keeps it open. -/
  | pipe (held : Bool) (waiting : Bytes)
  | socket
  /-- A device that swallows what is written and has nothing to read. -/
  | sink
  | full
  deriving DecidableEq, Repr

/-- A node with its permissions; `denied` if the running program may not open it. -/
structure Inode where
  node : Node
  mode : Nat
  denied : Bool
  deriving DecidableEq, Repr

structure Tree where
  inodes : List Inode
  deriving DecidableEq, Repr

namespace Node

/-- The permissions that a node is created with. -/
def initialMode : Node → Nat
  | folder _ => 0o755
  | link _ => 0o777
  | sink | full => 0o666
  | _ => 0o644

def isFolder : Node → Bool
  | folder _ => true
  | _ => false

end Node

/-- A node as it is created: open to the running program. -/
def Inode.new (node : Node) : Inode := ⟨node, node.initialMode, false⟩

namespace Tree

/-- A place in the tree: the names that lead to it from the root, innermost first, each with the node
that it leads to. -/
abbrev Place := List (String × NodeId)

def Place.id : Place → NodeId
  | [] => 0
  | (_, id) :: _ => id

/-- The absolute path of a place, without links. -/
def Place.path (place : Place) : String := Path.ofNames (place.reverse.map (·.1))

/-- The most octets in one name, and one more than there may be in a path. -/
def nameLimit : Nat := 255
def pathLimit : Nat := 4096

/-- The most links that are followed along one path. -/
def linkLimit : Nat := 40

def inode? (t : Tree) (id : NodeId) : Option Inode := t.inodes[id]?

def node? (t : Tree) (id : NodeId) : Option Node := (t.inode? id).map (·.node)

/-- Whether the running program may not open a node. -/
def isDenied (t : Tree) (id : NodeId) : Bool := (t.inode? id).any (·.denied)

def entriesAt (t : Tree) (place : Place) : Except IoError (List (String × NodeId)) :=
  match t.node? place.id with
  | some (.folder entries) => if t.isDenied place.id then .error (.os Errno.accessDenied) else .ok entries
  | _ => .error (.os Errno.notFolder)

/-- The names of a path that is followed to its end. A slash at the end leaves an empty name there, so that
the path can only be a folder's. -/
def steps (names : List String) (path : String) : List String :=
  names ++ if Path.endsWithSlash path then [""] else []

/-- The place that a row of names leads to from another place, following at most `links` links; the
last name's own link only if `follow`. An empty name stands for the folder that is reached, whether or not
it may be searched. -/
def walk (t : Tree) (follow : Bool) (links : Nat) (place : Place) : List String → Except IoError Place
  | [] => .ok place
  | name :: rest =>
    if name.isEmpty then
      if (t.node? place.id).any Node.isFolder then walk t follow links place rest
      else .error (.os Errno.notFolder)
    else match t.entriesAt place with
    | .error e => .error e
    | .ok entries =>
      if name = "." then walk t follow links place rest
      else if name = ".." then walk t follow links place.tail rest
      else if nameLimit < name.utf8ByteSize then .error (.os Errno.nameTooLong)
      else match entries.lookup name with
        | none => .error (.os Errno.noEntry)
        | some id =>
          match t.node? id with
          | some (.link target) =>
            if rest.isEmpty && !follow then .ok ((name, id) :: place)
            else match links with
              | 0 => .error (.os Errno.tooManyLinks)
              | links + 1 =>
                walk t follow links (if Path.isAbsolute target then [] else place)
                  (steps (Path.names target) target ++ rest)
          | _ => walk t follow links ((name, id) :: place) rest
termination_by names => (links, names.length)

/-- The names along a path as it is given, those of `base` in front of them if it is relative. -/
def namesFrom (base path : String) : Except IoError (List String) :=
  if path.toList.contains (Char.ofNat 0) then .error .nulInPath
  else if path.isEmpty then .error (.os Errno.noEntry)
  else if pathLimit ≤ path.utf8ByteSize then .error (.os Errno.nameTooLong)
  else .ok (Path.names (Path.join base path))

/-- The place that a path leads to; a relative path starts at `base`. -/
def placeOf (t : Tree) (follow : Bool) (base path : String) : Except IoError Place :=
  match namesFrom base path with
  | .error e => .error e
  | .ok names => t.walk follow linkLimit [] (steps names path)

/-- Whether a path leads to a node, links followed. -/
def exists? (t : Tree) (base path : String) : Bool := (t.placeOf true base path).isOk

/-- Whether a path leads to a folder, links followed. -/
def isFolderAt (t : Tree) (base path : String) : Bool :=
  match t.placeOf true base path with
  | .error _ => false
  | .ok place => (t.node? place.id).any Node.isFolder

/-- The content of the file that a path leads to. -/
def contentAt (t : Tree) (base path : String) : Except IoError Bytes :=
  match t.placeOf true base path with
  | .error e => .error e
  | .ok place =>
    if t.isDenied place.id then .error (.os Errno.accessDenied)
    else match t.node? place.id with
      | some (.file content) => .ok content
      | some (.pipe _ waiting) => .ok waiting
      | some (.folder _) => .error (.os Errno.isFolder)
      | some .socket => .error (.os Errno.noSuchAddress)
      | _ => .ok []

/-- The names in the folder that a path leads to. -/
def namesAt (t : Tree) (base path : String) : Except IoError (List String) :=
  match t.placeOf true base path with
  | .error e => .error e
  | .ok place => (t.entriesAt place).map fun entries => entries.map (·.1)

/-- The permissions of the node that a path leads to; its own link is not followed. -/
def modeAt (t : Tree) (base path : String) : Option Nat :=
  match t.placeOf false base path with
  | .error _ => none
  | .ok place => (t.inode? place.id).map (·.mode)

/-- A tree with the two devices and nothing else but folders. -/
def initial : Tree :=
  ⟨[.new (.folder [("dev", 1), ("sys", 4)]), .new (.folder [("null", 2), ("full", 3)]), .new .sink, .new .full,
    .new (.folder [("class", 5)]), .new (.folder [("hidraw", 6)]), .new (.folder [])]⟩

end Tree

end Haptics
