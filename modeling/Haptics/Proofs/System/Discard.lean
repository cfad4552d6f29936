import Haptics.Proofs.System.Stream
import Mathlib.Data.List.Basic

/-!
# Dropping what waits

A handle that is open for reading on a pipe or on a file is read to the end, in as many reads as that takes and no
more. One that cannot be read is left as it is. Main statement: `discard_empties`.
-/

namespace Haptics

theorem set_of_getElem? {α : Type} {l : List α} {i : Nat} {a : α} (h : l[i]? = some a) : l.set i a = l := by
  obtain ⟨hi, rfl⟩ := List.getElem?_eq_some_iff.1 h
  exact List.set_getElem_self hi

theorem Tree.setNode_self {t : Tree} {id : NodeId} {node : Node} (h : t.node? id = some node) :
    t.setNode id node = t := by
  obtain ⟨inode, hi, rfl⟩ := Option.map_eq_some_iff.1 h
  have hinodes : t.inodes[id]? = some inode := hi
  rw [setNode, List.modify_eq_set_getElem?, hinodes]
  exact congrArg Tree.mk (set_of_getElem? hinodes)

namespace Host

variable {h h' : Host} {i : Handle} {o : Opening} {content : Bytes}

/-- The handle is open for reading on a file, at the position of its opening. -/
structure Reads (h : Host) (i : Handle) (o : Opening) (content : Bytes) : Prop where
  opening : h.openings[i]? = some o
  isOpen : o.isOpen = true
  readable : o.readable = true
  node : h.tree.node? o.node = some (.file content)

/-- The host with a handle at another position. -/
def moved (h : Host) (i : Handle) (position : Nat) : Host :=
  { h with openings := h.openings.modify i fun o => { o with position := position } }

namespace Reads

theorem channel? (r : h.Reads i o content) : h.channel? i = some (o, ⟨.file content o.position, true⟩) := by
  simp [Host.channel?, r.opening, r.isOpen, r.node, r.readable]

theorem setChannel (r : h.Reads i o content) (position : Nat) :
    h.setChannel i o ⟨.file content position, true⟩ = h.moved i position := by
  simp only [Host.setChannel, Host.moved, List.modify_eq_set_getElem?, r.opening, Tree.setNode_self r.node]
  rfl

theorem moved (r : h.Reads i o content) (position : Nat) :
    (h.moved i position).Reads i { o with position := position } content := by
  refine ⟨?_, r.isOpen, r.readable, r.node⟩
  rw [Host.moved, List.getElem?_modify_eq, r.opening]
  rfl

end Reads

theorem setChannel_self {c : Channel} (hc : h.channel? i = some (o, c)) : h.setChannel i o c = h := by
  unfold Host.channel? at hc
  split at hc
  · cases hc
  rename_i o' ho
  split at hc
  · cases hc
  split at hc
  next content hnode =>
    cases hc
    simp only [setChannel, Tree.setNode_self hnode, set_of_getElem? ho]
  next held waiting hnode =>
    cases hc
    simp only [setChannel, hnode, Tree.setNode_self hnode]
  next =>
    cases hc
    rfl
  next =>
    cases hc
    rfl

/-! ### Dropping -/

/-- A read of the handle fails, as it does if the handle was released or is open for writing only. -/
def Fails (h : Host) (i : Handle) : Prop :=
  ∀ o c, h.channel? i = some (o, c) → ∃ e, (c.read Channel.drainSize).1 = .error e

/-- Dropping what waits behind a handle ends after `n` reads, which are needed, and leads to a host on which the handle
has nothing to read. -/
structure Empties (h : Host) (i : Handle) (n : Nat) (h' : Host) : Prop where
  discard : h.discard i = (n, h')
  channel : ∃ o c o' c', h.channel? i = some (o, c) ∧ h'.channel? i = some (o', c') ∧ c.Empties n c'

theorem Pipes.empties {held : Bool} {q : Bytes} (p : h.Pipes i o held q) :
    h.Empties i ((q.length + 19) / 20) (h.filled i []) := by
  refine ⟨?_, o, _, o, _, p.channel?, (p.filled []).channel?, Channel.empties_stream q⟩
  simp only [Host.discard, p.channel?, Channel.drain_stream, p.setChannel, p.filled_eq]

theorem Reads.empties (r : h.Reads i o content) :
    h.Empties i ((content.length - o.position + 19) / 20) (h.moved i (max o.position content.length)) := by
  refine ⟨?_, o, _, _, _, r.channel?, (r.moved _).channel?, Channel.empties_file content o.position⟩
  simp only [Host.discard, r.channel?, Channel.drain_file, r.setChannel]

theorem Fails.discard (hf : h.Fails i) : h.discard i = (0, h) := by
  unfold Host.discard
  split
  · rfl
  · rename_i o c hc
    obtain ⟨e, he⟩ := hf o c hc
    rw [(Channel.drain_of_error he).2]
    exact congrArg (Prod.mk 0) (setChannel_self hc)

/-- If a handle can be read and `n` bytes wait in its pipe, or are left in its file behind its position, dropping them
ends after ⌈n / 20⌉ reads of up to 20 bytes, none of which can be spared, with nothing left to read: the pipe is empty,
or the handle is at the end of the file, and all else is as it was. If a read of the handle fails, nothing was read and
nothing changes. -/
theorem discard_empties :
    (∀ (h : Host) (i : Handle) (o : Opening) (held : Bool) (q : Bytes), h.Pipes i o held q →
      h.Empties i ((q.length + 19) / 20) (h.filled i [])) ∧
    (∀ (h : Host) (i : Handle) (o : Opening) (content : Bytes), h.Reads i o content →
      h.Empties i ((content.length - o.position + 19) / 20) (h.moved i (max o.position content.length))) ∧
    ∀ (h : Host) (i : Handle), h.Fails i →
      h.discard i = (0, h) ∧ ∀ o c, h.channel? i = some (o, c) → c.Drains 0 c := by
  refine ⟨fun h i o held q p => p.empties, fun h i o content r => r.empties, fun h i hf => ⟨hf.discard, ?_⟩⟩
  intro o c hc
  obtain ⟨e, he⟩ := hf o c hc
  exact (Channel.drain_of_error he).1

/-- A pipe with 45 bytes, a file of 41 of which one was read, and a handle that is open for writing only. -/
theorem discard_empties_handles :
    let h : Host := ⟨⟨[.new (.pipe true (List.replicate 45 0xFF)), .new (.file (List.replicate 41 0xFF))]⟩,
      [⟨0, true, 0, true⟩, ⟨1, true, 1, true⟩, ⟨0, false, 0, true⟩], "/", 0⟩
    h.Pipes 0 ⟨0, true, 0, true⟩ true (List.replicate 45 0xFF) ∧ h.Empties 0 3 (h.filled 0 []) ∧
      h.Reads 1 ⟨1, true, 1, true⟩ (List.replicate 41 0xFF) ∧ h.Empties 1 2 (h.moved 1 41) ∧
      h.Fails 2 ∧ h.discard 2 = (0, h) := by
  intro h
  have p : h.Pipes 0 ⟨0, true, 0, true⟩ true (List.replicate 45 0xFF) := ⟨rfl, rfl, rfl, rfl⟩
  have r : h.Reads 1 ⟨1, true, 1, true⟩ (List.replicate 41 0xFF) := ⟨rfl, rfl, rfl, rfl⟩
  have hf : h.Fails 2 := by
    intro o c hc
    cases hc
    exact ⟨_, rfl⟩
  have hpipe := discard_empties.1 h 0 _ true _ p
  have hfile := discard_empties.2.1 h 1 _ _ r
  exact ⟨p, hpipe, r, hfile, hf, (discard_empties.2.2 h 2 hf).1⟩

end Host

end Haptics
