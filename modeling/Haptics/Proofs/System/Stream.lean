import Haptics.Proofs.System.Drain
import Haptics.System.Host

/-!
# Streams on a host

A handle that is open for reading and writing on a pipe drives a byte stream. `Host.filled` is the host with
given bytes waiting in it; dropping, writing and reading lead from one such host to another.
-/

namespace Haptics

namespace Tree

theorem setNode_setNode (t : Tree) (id : NodeId) (node node' : Node) :
    (t.setNode id node).setNode id node' = t.setNode id node' := by
  simp only [setNode, List.modify_modify_eq, Function.comp_def]

end Tree

namespace Host

variable {h : Host} {i : Handle}

/-- The handle is open for reading and writing on a pipe. -/
structure Pipes (h : Host) (i : Handle) (o : Opening) (held : Bool) (q : Bytes) : Prop where
  opening : h.openings[i]? = some o
  isOpen : o.isOpen = true
  readable : o.readable = true
  node : h.tree.node? o.node = some (.pipe held q)

/-- The host with these bytes waiting behind a handle, if a pipe is there, in place of those that wait. -/
def filled (h : Host) (i : Handle) (q : Bytes) : Host :=
  match h.channel? i with
  | some (o, _) => h.setChannel i o ⟨.stream q, true⟩
  | none => h

namespace Pipes

variable {o : Opening} {held : Bool} {q : Bytes}

theorem channel? (p : h.Pipes i o held q) : h.channel? i = some (o, ⟨.stream q, true⟩) := by
  simp [Host.channel?, p.opening, p.isOpen, p.node, p.readable]

theorem setChannel (p : h.Pipes i o held q) (q' : Bytes) (r : Bool) :
    h.setChannel i o ⟨.stream q', r⟩ = { h with tree := h.tree.setNode o.node (.pipe held q') } := by
  simp only [Host.setChannel, p.node]

theorem filled_eq (p : h.Pipes i o held q) (q' : Bytes) :
    h.filled i q' = { h with tree := h.tree.setNode o.node (.pipe held q') } := by
  simp only [filled, p.channel?, p.setChannel]

theorem filled (p : h.Pipes i o held q) (q' : Bytes) : (h.filled i q').Pipes i o held q' := by
  rw [p.filled_eq]
  exact ⟨p.opening, p.isOpen, p.readable, by simp [Tree.node?_setNode_self, p.node]⟩

/-- The bytes that waited before do not matter. -/
theorem setChannel_filled (p : h.Pipes i o held q) (q₁ q₂ : Bytes) (r : Bool) :
    (h.filled i q₁).setChannel i o ⟨.stream q₂, r⟩ = h.filled i q₂ := by
  rw [(p.filled q₁).setChannel, p.filled_eq, p.filled_eq]
  simp only [Tree.setNode_setNode]

/-! ### The calls on the handle -/

theorem discard (p : h.Pipes i o held q) (q' : Bytes) :
    Host.discard i (h.filled i q') = ((q'.length + 19) / 20, h.filled i []) := by
  simp only [Host.discard, (p.filled q').channel?, Channel.drain_stream, p.setChannel_filled]

theorem write (p : h.Pipes i o held q) (q' : Bytes) {bs : Bytes} (hbs : bs ≠ []) :
    Host.write i bs (h.filled i q') = (.ok (), h.filled i (q' ++ bs)) := by
  have he : bs.isEmpty = false := by simpa using hbs
  simp only [Host.write, (p.filled q').channel?, Channel.write, he, Bool.false_eq_true, ↓reduceIte,
    Source.write, p.setChannel_filled]

theorem read (p : h.Pipes i o held q) {q' : Bytes} (hq : q' ≠ []) (n : Nat) {ms : UInt64} {deadline : Nat}
    (hd : Clock.deadline? h.nowMs ms = some deadline) :
    Host.read i n ms (h.filled i q') = (.ok (q'.take n), h.filled i (q'.drop n)) := by
  obtain ⟨b, q', rfl⟩ := List.exists_cons_of_ne_nil hq
  have hnow : (h.filled i (b :: q')).nowMs = h.nowMs := by rw [p.filled_eq]
  simp only [Host.read, hnow, hd, (p.filled _).channel?, Channel.read_stream_cons, p.setChannel_filled]

end Pipes

end Host

end Haptics
