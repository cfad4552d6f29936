import Haptics.System.Edit

/-!
# Sockets

A socket is a node under a path that must be short. `Tree.createSocket` makes the one of a server that begins
to listen, `Tree.findSocket` finds the one that a client knocks at.
-/

namespace Haptics

/-- One more than the most octets in the path of a socket. -/
def socketPathLimit : Nat := 108

def IoError.socketPathTooLong : IoError := .invalid "path must be shorter than SUN_LEN"

def IoError.nulInSocketPath : IoError := .invalid "paths must not contain interior null bytes"

namespace Tree

/-- Whether a path can be that of a socket. -/
def checkSocketPath (path : String) : Except IoError Unit :=
  if path.toList.contains (Char.ofNat 0) then .error .nulInSocketPath
  else if socketPathLimit ≤ path.utf8ByteSize then .error .socketPathTooLong
  else .ok ()

def createSocket (t : Tree) (base path : String) : Except IoError Tree :=
  match (checkSocketPath path).bind fun _ => t.create base path .socket with
  | .ok t => .ok t
  | .error e => .error (if e = .os Errno.fileExists then .os Errno.addressInUse else e)

/-- The socket that a path leads to. At any other node nobody listens. -/
def findSocket (t : Tree) (base path : String) : Except IoError NodeId :=
  match (checkSocketPath path).bind fun _ => t.placeOf true base path with
  | .error e => .error e
  | .ok place => if t.node? place.id = some .socket then .ok place.id else .error (.os Errno.connectionRefused)

end Tree

end Haptics
