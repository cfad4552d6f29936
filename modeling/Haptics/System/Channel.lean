import Haptics.Bytes
import Haptics.System.Error

/-!
# Channels

An open node as its reader and writer see it: a byte stream, a file with a position that reads and
writes share, or one of the two endless devices. `Channel.drain` reads until nothing is left.
-/

namespace Haptics

/-- What an open node gives and takes. -/
inductive Source where
  | stream (waiting : Bytes)
  | file (content : Bytes) (position : Nat)
  | sink
  | full
  deriving DecidableEq, Repr

namespace Source

def remaining : Source → Bytes
  | stream waiting => waiting
  | file content position => content.drop position
  | sink | full => []

/-- The source after the next `n` bytes of what is left were taken from it. -/
def advance (n : Nat) : Source → Source
  | stream waiting => stream (waiting.drop n)
  | file content position => file content (position + min n (content.length - position))
  | sink => sink
  | full => full

/-- Reads at most `n` bytes. A stream without any would block, a file at its end has none to give. -/
def read (n : Nat) (s : Source) : Except IoError Bytes × Source :=
  match s with
  | stream [] => (if n = 0 then .ok [] else .error (.os Errno.wouldBlock), s)
  | full => (.ok (List.replicate n 0), s)
  | _ => (.ok (s.remaining.take n), s.advance n)

/-- Writes all of the bytes; a file is overwritten from its position on. -/
def write (bs : Bytes) : Source → Except IoError Unit × Source
  | stream waiting => (.ok (), stream (waiting ++ bs))
  | file content position =>
    (.ok (), file (content.fit position ++ bs ++ content.drop (position + bs.length)) (position + bs.length))
  | sink => (.ok (), sink)
  | full => (if bs.isEmpty then .ok () else .error (.os Errno.noSpace), full)

theorem length_remaining_advance (n : Nat) (s : Source) :
    (s.advance n).remaining.length = s.remaining.length - n := by
  cases s <;> simp [advance, remaining]
  omega

theorem length_remaining_read {n : Nat} {s s' : Source} {b : UInt8} {bs : Bytes} (hf : s ≠ full)
    (h : s.read n = (.ok (b :: bs), s')) : s'.remaining.length < s.remaining.length := by
  have hr : s.remaining.take n = b :: bs ∧ s.advance n = s' := by
    unfold read at h
    split at h
    · split at h <;> simp at h
    · exact absurd rfl hf
    · simpa using h
  have := congrArg List.length hr.1
  rw [← hr.2, length_remaining_advance]
  simp at this; omega

end Source

/-- An open node; one opened for writing only cannot be read. -/
structure Channel where
  source : Source
  readable : Bool
  deriving DecidableEq, Repr

namespace Channel

/-- Reads at most `n` bytes. -/
def read (n : Nat) (c : Channel) : Except IoError Bytes × Channel :=
  if c.readable then
    match c.source.read n with
    | (r, s) => (r, { c with source := s })
  else (.error (.os Errno.badDescriptor), c)

/-- Writes all of the bytes; nothing happens if there are none. -/
def write (bs : Bytes) (c : Channel) : Except IoError Unit × Channel :=
  if bs.isEmpty then (.ok (), c)
  else match c.source.write bs with
    | (r, s) => (r, { c with source := s })

/-- The most that one read of `drain` takes. -/
def drainSize : Nat := 20

theorem length_remaining_read {n : Nat} {c c' : Channel} {b : UInt8} {bs : Bytes}
    (hf : c.source ≠ .full) (h : c.read n = (.ok (b :: bs), c')) :
    c'.source.remaining.length < c.source.remaining.length := by
  unfold read at h
  split at h
  · simp only [Prod.mk.injEq] at h
    obtain ⟨h, rfl⟩ := h
    exact Source.length_remaining_read (n := n) hf (Prod.ext h rfl)
  · simp at h

/-- Reads until there is nothing, the end or an error, and counts the reads that gave something. The
device that never ends is left alone. -/
def drain (c : Channel) : Nat × Channel :=
  if hf : c.source = .full then (0, c)
  else match h : c.read drainSize with
    | (.ok (_ :: _), c') =>
      have := length_remaining_read hf h
      match drain c' with
      | (n, c'') => (n + 1, c'')
    | (_, c') => (0, c')
termination_by c.source.remaining.length

end Channel

end Haptics
