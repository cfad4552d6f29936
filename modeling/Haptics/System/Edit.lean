import Haptics.System.Tree

/-!
# Changing file trees

What the calls that make, write and remove nodes do to a tree. Such a call looks up the last name of its path
in the folder that the names before it lead to. A link that it finds there is followed only to write a file.
-/

namespace Haptics

namespace Tree

/-! ### Nodes by number -/

def setNode (t : Tree) (id : NodeId) (node : Node) : Tree :=
  ⟨t.inodes.modify id fun i => { i with node := node }⟩

def setMode (t : Tree) (id : NodeId) (mode : Nat) (denied : Bool) : Tree :=
  ⟨t.inodes.modify id fun i => { i with mode := mode, denied := denied }⟩

def insertAt (t : Tree) (folder : NodeId) (name : String) (node : Node) : Tree :=
  match t.node? folder with
  | some (.folder entries) =>
    let t := t.setNode folder (.folder (entries ++ [(name, t.inodes.length)]))
    ⟨t.inodes ++ [.new node]⟩
  | _ => t

def eraseAt (t : Tree) (folder : NodeId) (name : String) : Tree :=
  match t.node? folder with
  | some (.folder entries) => t.setNode folder (.folder (entries.filter (·.1 ≠ name)))
  | _ => t

theorem node?_setNode_self (t : Tree) (id : NodeId) (node : Node) :
    (t.setNode id node).node? id = (t.node? id).map fun _ => node := by
  simp [node?, inode?, setNode, Function.comp_def]

theorem node?_setNode_ne (t : Tree) {id other : NodeId} (node : Node) (h : id ≠ other) :
    (t.setNode id node).node? other = t.node? other := by
  simp [node?, inode?, setNode, h]

theorem node?_setMode (t : Tree) (id other : NodeId) (mode : Nat) (denied : Bool) :
    (t.setMode id mode denied).node? other = t.node? other := by
  by_cases h : id = other <;> simp [node?, inode?, setMode, h, Function.comp_def]

/-! ### The last name of a path -/

/-- A name in a folder, and the node that it leads to, if any. -/
structure Spot where
  folder : Place
  name : String
  node : Option NodeId

/-- Where the last of a row of names is looked up. The root, `.` and `..` stand in no folder. -/
def spot (t : Tree) (links : Nat) (place : Place) (names : List String) : Except IoError (Option Spot) :=
  match t.walk true links place names.dropLast with
  | .error e => .error e
  | .ok folder =>
    match names.getLast? with
    | none => .ok none
    | some name =>
      match t.entriesAt folder with
      | .error e => .error e
      | .ok entries =>
        if name = "." ∨ name = ".." then .ok none
        else if nameLimit < name.utf8ByteSize then .error (.os Errno.nameTooLong)
        else .ok (some ⟨folder, name, entries.lookup name⟩)

/-- Where the last name of a path is looked up; a relative path starts at `base`. -/
def spotOf (t : Tree) (base path : String) : Except IoError (Option Spot) :=
  match namesFrom base path with
  | .error e => .error e
  | .ok names => t.spot linkLimit [] names

/-- Where the file that a path leads to stands or would stand, its links followed. -/
def fileSpot (t : Tree) : Nat → Place → String → Except IoError Spot
  | links, place, path =>
    match t.spot links (if Path.isAbsolute path then [] else place) (Path.names path) with
    | .error e => .error e
    | .ok none => .error (.os Errno.isFolder)
    | .ok (some s) =>
      if Path.endsWithSlash path then .error (.os Errno.isFolder)
      else match s.node.bind t.node?, links with
        | some (.link target), links + 1 => fileSpot t links s.folder target
        | some (.link _), 0 => .error (.os Errno.tooManyLinks)
        | _, _ => .ok s

/-! ### Calls -/

def unlink (t : Tree) (base path : String) : Except IoError Tree :=
  match t.spotOf base path with
  | .error e => .error e
  | .ok none => .error (.os Errno.isFolder)
  | .ok (some s) =>
    match s.node.bind t.node? with
    | none => .error (.os Errno.noEntry)
    | some (.folder _) => .error (.os Errno.isFolder)
    | some _ =>
      if Path.endsWithSlash path then .error (.os Errno.notFolder) else .ok (t.eraseAt s.folder.id s.name)

def removeAll (t : Tree) (base path : String) : Except IoError Tree :=
  match t.spotOf base path with
  | .error e => .error e
  | .ok none => .error (.os Errno.fileExists)
  | .ok (some s) => .ok (t.eraseAt s.folder.id s.name)

/-- The tree with a new node at a path to which nothing leads yet. Only the path of a folder may end with a
slash. -/
def create (t : Tree) (base path : String) (node : Node) : Except IoError Tree :=
  match t.spotOf base path with
  | .error e => .error e
  | .ok none => .error (.os Errno.fileExists)
  | .ok (some s) =>
    if s.node.isSome then .error (.os Errno.fileExists)
    else if Path.endsWithSlash path && !node.isFolder then .error (.os Errno.noEntry)
    else .ok (t.insertAt s.folder.id s.name node)

/-- The tree with a folder at a path; one that stands there is left as it is. -/
def ensureFolder (t : Tree) (base path : String) : Except IoError Tree :=
  match t.create base path (.folder []) with
  | .ok t => .ok t
  | .error e => if t.isFolderAt base path then .ok t else .error e

/-- The tree with folders at the paths, each of which stands in the one behind it. Those behind the first are
looked at only if it cannot be made without them. -/
def ensureFolders (t : Tree) (base : String) : List String → Except IoError Tree
  | [] => .ok t
  | path :: above =>
    match t.ensureFolder base path with
    | .ok t => .ok t
    | .error e =>
      if e.isNotFound then
        match ensureFolders t base above with
        | .error e => .error e
        | .ok t => t.ensureFolder base path
      else .error e

/-- The tree after all of a file was written: a new one, or one that stands at the path. -/
def write (t : Tree) (base path : String) (content : Bytes) : Except IoError Tree :=
  match (namesFrom base path).bind fun _ => t.fileSpot linkLimit [] (Path.join base path) with
  | .error e => .error e
  | .ok s =>
    match s.node with
    | none => .ok (t.insertAt s.folder.id s.name (.file content))
    | some id =>
      match t.node? id with
      | some (.folder _) => .error (.os Errno.isFolder)
      | node =>
        if t.isDenied id then .error (.os Errno.accessDenied)
        else match node with
          | some (.file _) => .ok (t.setNode id (.file content))
          | some (.pipe held waiting) => .ok (t.setNode id (.pipe held (waiting ++ content)))
          | some .socket => .error (.os Errno.noSuchAddress)
          | some .full => if content.isEmpty then .ok t else .error (.os Errno.noSpace)
          | _ => .ok t

def chmod (t : Tree) (base path : String) (mode : Nat) : Except IoError Tree :=
  match t.placeOf true base path with
  | .error e => .error e
  | .ok place => .ok (t.setMode place.id mode (t.isDenied place.id))

def deny (t : Tree) (base path : String) : Except IoError Tree :=
  match t.placeOf true base path with
  | .error e => .error e
  | .ok place => .ok (t.setMode place.id 0 true)

/-! ### Setting up -/

/-- The tree with a node at an absolute path; folders are made on the way. A file replaces the content of one
that stands there, and a folder may stand there already. -/
def put (t : Tree) (path : String) (node : Node) : Except IoError Tree :=
  match t.ensureFolders "/" (Path.ancestors path) with
  | .error e => .error e
  | .ok t =>
    match node with
    | .file content => t.write "/" path content
    | .folder _ => t.ensureFolder "/" path
    | .link target => (namesFrom "/" target).bind fun _ => t.create "/" path node
    | _ => t.create "/" path node

/-- The tree with a folder at an absolute path, if it can be made. -/
def withFolder (t : Tree) (path : String) : Tree := (t.put path (.folder [])).toOption.getD t

end Tree

end Haptics
