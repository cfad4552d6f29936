import Haptics.Command.Server

/-!
# Command socket rehearsals

The command socket's server with clients that follow a script. A client that was let in before the server
ended is still heard afterwards.
-/

namespace Haptics.Rehearsal

/-- Where a server is in its life. -/
inductive Duty where
  | pending
  | serving
  | over
  deriving DecidableEq, Repr

structure Service where
  tree : Tree
  path : String
  inbox : Inbox
  duty : Duty
  isStopping : Bool
  /-- The clients that are connected and silent. -/
  silent : Nat

/-- What a client or the owner of the server does next. -/
inductive Deed where
  | start
  /-- A client connects, writes and leaves. -/
  | visit (payload : Bytes)
  | hold
  /-- The first silent client writes and leaves. -/
  | speak (payload : Bytes)
  | shutDown

/-- What a deed shows, apart from the inbox and the tree. -/
structure Effects where
  connected : Option Bool
  ended : Option (Except IoError Unit)

namespace Service

def new (tree : Tree) (path : String) (inbox : Inbox) : Service := ⟨tree, path, inbox, .pending, false, 0⟩

def finish (s : Service) : Service := { s with tree := Command.release s.tree "/" s.path, duty := .over }

/-- A client is heard, whose payload arrives all at once. -/
def hear (payload : Bytes) (s : Service) : Service :=
  { s with inbox := (Command.serve [.ok payload] s.inbox).2 }

def isOpen (s : Service) : Bool := s.duty == .serving

def perform (s : Service) : Deed → Effects × Service
  | .start =>
    match s.duty with
    | .pending =>
      match Command.bind s.tree "/" s.path with
      | (.error e, tree) => (⟨none, some (.error e)⟩, { s with tree := tree, duty := .over })
      | (.ok (), tree) =>
        let s := { s with tree := tree, duty := .serving }
        if s.isStopping then (⟨none, some (.ok ())⟩, s.finish) else (⟨none, none⟩, s)
    | _ => (⟨none, none⟩, s)
  | .visit payload => (⟨some s.isOpen, none⟩, if s.isOpen then s.hear payload else s)
  | .hold => (⟨none, none⟩, if s.isOpen then { s with silent := s.silent + 1 } else s)
  | .speak payload =>
    (⟨none, none⟩, if s.silent = 0 then s else { s.hear payload with silent := s.silent - 1 })
  | .shutDown =>
    let s := { s with isStopping := true }
    if s.isOpen then (⟨none, some (.ok ())⟩, s.finish) else (⟨none, none⟩, s)

end Service

end Haptics.Rehearsal
