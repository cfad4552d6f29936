import Haptics.System.Edit

/-!
# Scenery

The nodes that a rehearsal is set up with, and those that are added while it runs. The scenery is built by
somebody to whom nothing is denied; whoever adds to it later is held to what is denied.
-/

namespace Haptics.Rehearsal

/-- A node for a path; `isDenied` if it is to be closed to the running program. -/
structure Placement where
  path : String
  node : Node
  isDenied : Bool
  deriving DecidableEq, Repr

def Placement.addTo (p : Placement) (t : Tree) : Except IoError Tree :=
  match t.put p.path p.node with
  | .error e => .error e
  | .ok t => if p.isDenied then t.deny "/" p.path else .ok t

/-- The tree after nodes were put into it in order, and the numbers of those that are to be closed. -/
def putAll (t : Tree) : List Placement → Except IoError (Tree × List NodeId)
  | [] => .ok (t, [])
  | p :: ps =>
    match t.put p.path p.node with
    | .error e => .error e
    | .ok t =>
      match (if p.isDenied then (t.placeOf true "/" p.path).map fun place => [place.id] else .ok []) with
      | .error e => .error e
      | .ok closed => (putAll t ps).map fun (t, others) => (t, closed ++ others)

/-- The tree with all of the scenery; nodes are closed only when everything stands. -/
def furnish (t : Tree) (ps : List Placement) : Except IoError Tree :=
  (putAll t ps).map fun (t, closed) => closed.foldl (fun t id => t.setMode id 0 true) t

end Haptics.Rehearsal
