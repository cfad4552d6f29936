import Haptics.System.Channel
import Mathlib.Logic.Function.Iterate

/-!
# Draining a channel

`Drains` is the loop of a drain, read by read: a read that gives something leaves less behind and another follows, and
the first that gives nothing or fails is the last. Only the device that never ends keeps the loop going
(`not_drains_full`); in all other cases it ends, and `Channel.drain` says where (`drains_iff`). What can be read is then
read to its end, in as many reads as that takes (`empties`).
-/

namespace Haptics

namespace Source

variable {s : Source} {b : UInt8} {q : Bytes}

theorem remaining_advance (n : Nat) (s : Source) : (s.advance n).remaining = s.remaining.drop n := by
  cases s with
  | stream waiting => rfl
  | file content position =>
    simp only [advance, remaining, List.drop_drop]
    rcases Nat.le_total n (content.length - position) with h | h
    · rw [Nat.min_eq_left h]
    · rw [Nat.min_eq_right h, List.drop_of_length_le (by omega), List.drop_of_length_le (by omega)]
  | sink => exact List.drop_nil.symm
  | full => exact List.drop_nil.symm

theorem advance_zero (s : Source) : s.advance 0 = s := by
  cases s <;> simp [advance]

theorem advance_advance (m n : Nat) (s : Source) : (s.advance m).advance n = s.advance (m + n) := by
  cases s with
  | stream waiting => simp only [advance, List.drop_drop]
  | file content position =>
    simp only [advance, file.injEq, true_and]
    omega
  | sink => rfl
  | full => rfl

theorem advance_ne_full (h : s ≠ full) (n : Nat) : s.advance n ≠ full := by
  cases s <;> simp_all [advance]

theorem read_snd (n : Nat) (s : Source) : (s.read n).2 = s.advance n := by
  cases s with
  | stream waiting => cases waiting <;> simp [read, advance]
  | file content position => rfl
  | sink => rfl
  | full => rfl

theorem read_of_cons (h : s.remaining = b :: q) (n : Nat) : (s.read n).1 = .ok ((b :: q).take n) := by
  rw [← h]
  cases s with
  | stream waiting =>
    obtain rfl : waiting = b :: q := h
    rfl
  | file content position => rfl
  | sink => cases h
  | full => cases h

theorem advance_of_nil (h : s.remaining = []) (n : Nat) : s.advance n = s := by
  cases s with
  | stream waiting =>
    obtain rfl : waiting = [] := h
    simp [advance]
  | file content position =>
    have hend : content.length ≤ position := List.drop_eq_nil_iff.1 h
    rw [advance, Nat.sub_eq_zero_of_le hend, Nat.min_zero, Nat.add_zero]
  | sink => rfl
  | full => rfl

theorem remaining_of_read_error {n : Nat} {e : IoError} (h : (s.read n).1 = .error e) : s.remaining = [] := by
  rcases hs : s.remaining with _ | ⟨b, q⟩
  · rfl
  · rw [read_of_cons hs] at h
    cases h

theorem read_of_nil (hf : s ≠ full) (h : s.remaining = []) (n : Nat) (b : UInt8) (bs : Bytes) :
    (s.read n).1 ≠ .ok (b :: bs) := by
  cases s with
  | stream waiting =>
    obtain rfl : waiting = [] := h
    rw [read]
    split <;> simp
  | file content position => simp [read, h]
  | sink => simp [read, remaining]
  | full => exact absurd rfl hf

end Source

namespace Channel

variable {c c' : Channel} {s : Source} {b : UInt8} {bs q : Bytes} {n : Nat}

/-! ### The loop -/

/-- The loop of a drain ends at `c'`, and `n` of its reads gave something. -/
inductive Drains : Channel → Nat → Channel → Prop
  | last {c c' : Channel} {r : Except IoError Bytes} (h : c.read drainSize = (r, c'))
      (hr : ∀ b bs, r ≠ .ok (b :: bs)) : Drains c 0 c'
  | more {c c' c'' : Channel} {b : UInt8} {bs : Bytes} {n : Nat} (h : c.read drainSize = (.ok (b :: bs), c'))
      (hrest : Drains c' n c'') : Drains c (n + 1) c''

theorem drain_of_some (hf : c.source ≠ .full) (h : c.read drainSize = (.ok (b :: bs), c')) :
    c.drain = (c'.drain.1 + 1, c'.drain.2) := by
  rw [drain, dif_neg hf]
  split
  · rename_i h'
    rw [h] at h'
    obtain ⟨-, rfl⟩ := Prod.mk.inj h'
    rfl
  · rename_i hne h'
    rw [h] at h'
    obtain ⟨rfl, -⟩ := Prod.mk.inj h'
    exact absurd rfl (hne b bs)

theorem drain_of_none {r : Except IoError Bytes} (hf : c.source ≠ .full)
    (h : c.read drainSize = (r, c')) (hr : ∀ b bs, r ≠ .ok (b :: bs)) : c.drain = (0, c') := by
  rw [drain, dif_neg hf]
  split
  · rename_i b bs _ h'
    rw [h] at h'
    exact absurd (Prod.mk.inj h').1 (hr b bs)
  · rename_i h'
    rw [h] at h'
    obtain ⟨-, rfl⟩ := Prod.mk.inj h'
    rfl

theorem read_readable (n : Nat) (s : Source) : read n ⟨s, true⟩ = ((s.read n).1, ⟨s.advance n, true⟩) := by
  rw [← s.read_snd n]
  rfl

theorem read_unreadable (n : Nat) (s : Source) :
    read n ⟨s, false⟩ = (.error (.os Errno.badDescriptor), ⟨s, false⟩) := rfl

theorem source_read_ne_full (hf : c.source ≠ .full) (n : Nat) : (c.read n).2.source ≠ .full := by
  rcases c with ⟨s, _ | _⟩
  · exact hf
  · rw [read_readable]
    exact Source.advance_ne_full hf n

theorem Drains.drain_eq (h : Drains c n c') (hf : c.source ≠ .full) : c.drain = (n, c') := by
  induction h with
  | last h hr => exact drain_of_none hf h hr
  | more h _ ih =>
    have hf' := source_read_ne_full hf drainSize
    rw [h] at hf'
    rw [drain_of_some hf h, ih hf']

/-- A read that fails changes nothing, so nothing was read. -/
theorem drain_of_error {e : IoError} (h : (c.read drainSize).1 = .error e) : Drains c 0 c ∧ c.drain = (0, c) := by
  have hread : c.read drainSize = (.error e, c) := by
    rcases c with ⟨s, _ | _⟩
    · rw [read_unreadable] at h ⊢
      rw [← h]
    · rw [read_readable] at h ⊢
      rw [s.advance_of_nil (Source.remaining_of_read_error h)]
      exact Prod.ext h rfl
  have hends : Drains c 0 c := .last hread (by simp)
  by_cases hf : c.source = .full
  · exact ⟨hends, by rw [drain, dif_pos hf]⟩
  · exact ⟨hends, hends.drain_eq hf⟩

/-- The reads of the endless device never run dry. -/
theorem not_drains_full : ¬ Drains ⟨.full, true⟩ n c' := by
  intro h
  generalize hc : (⟨.full, true⟩ : Channel) = c at h
  induction h with
  | last h hr =>
    subst hc
    exact hr 0 _ (Prod.mk.inj h).1.symm
  | more h _ ih =>
    subst hc
    exact ih (Prod.mk.inj h).2

/-! ### What can be read -/

/-- The channel after `k` reads of a drain, whatever they gave. -/
def afterReads (k : Nat) (c : Channel) : Channel := (fun c => (c.read drainSize).2)^[k] c

theorem afterReads_readable (k : Nat) (s : Source) : afterReads k ⟨s, true⟩ = ⟨s.advance (k * drainSize), true⟩ := by
  induction k generalizing s with
  | zero => rw [Nat.zero_mul, s.advance_zero]; rfl
  | succ k ih =>
    rw [afterReads, Function.iterate_succ_apply, read_readable]
    exact (ih _).trans (by rw [s.advance_advance, Nat.succ_mul, Nat.add_comm])

theorem remaining_afterReads (k : Nat) (s : Source) :
    (afterReads k ⟨s, true⟩).source.remaining = s.remaining.drop (k * drainSize) := by
  rw [afterReads_readable, Source.remaining_advance]

/-- How many reads it takes to get a number of bytes. -/
theorem reads_le_iff {length k : Nat} : (length + 19) / 20 ≤ k ↔ length ≤ k * drainSize := by
  rw [drainSize]
  omega

theorem drains_readable (hf : s ≠ .full) : Drains ⟨s, true⟩ ((s.remaining.length + 19) / 20)
    (afterReads ((s.remaining.length + 19) / 20) ⟨s, true⟩) := by
  -- each read takes up to twenty bytes off the front, so the induction is on how many there are
  induction hl : s.remaining.length using Nat.strongRecOn generalizing s with
  | ind l ih =>
    subst hl
    rcases hs : s.remaining with _ | ⟨b, q⟩
    · show Drains ⟨s, true⟩ 0 (afterReads 0 ⟨s, true⟩)
      rw [afterReads_readable, Nat.zero_mul, s.advance_zero]
      have hread := read_readable drainSize s
      rw [Source.advance_of_nil hs] at hread
      exact .last hread (Source.read_of_nil hf hs drainSize)
    · have hread := read_readable drainSize s
      rw [Source.read_of_cons hs] at hread
      have hlength : (s.advance drainSize).remaining.length = (b :: q).length - drainSize := by
        rw [Source.remaining_advance, hs, List.length_drop]
      have hcount : ((b :: q).length + 19) / 20 = ((b :: q).length - drainSize + 19) / 20 + 1 := by
        rw [List.length_cons, drainSize]
        omega
      have hrest := ih _ (by rw [hlength, hs, List.length_cons, drainSize]; omega)
        (Source.advance_ne_full hf drainSize) rfl
      rw [hlength] at hrest
      rw [hcount, afterReads, Function.iterate_succ_apply, read_readable]
      exact .more hread hrest

/-- The loop ends in one way only, and `drain` gives it; there is nothing to give for the endless device. -/
theorem drains_iff (hf : c.source ≠ .full) : Drains c n c' ↔ c.drain = (n, c') := by
  refine ⟨fun h => h.drain_eq hf, fun h => ?_⟩
  obtain ⟨m, c'', hends⟩ : ∃ m c'', Drains c m c'' := by
    rcases c with ⟨s, _ | _⟩
    · exact ⟨0, _, .last (read_unreadable drainSize s) (by simp)⟩
    · exact ⟨_, _, drains_readable hf⟩
  obtain ⟨rfl, rfl⟩ := Prod.mk.inj ((hends.drain_eq hf).symm.trans h)
  exact hends

/-- The loop of a drain ends at `c'` after `n` reads that gave something. Fewer would leave something behind, and after
them there is nothing to read. -/
structure Empties (c : Channel) (n : Nat) (c' : Channel) : Prop where
  ends : Drains c n c'
  least : ∀ k, n ≤ k ↔ (afterReads k c).source.remaining = []
  spent : ∀ size b bs, (c'.read size).1 ≠ .ok (b :: bs)

theorem empties (hf : s ≠ .full) : Empties ⟨s, true⟩ ((s.remaining.length + 19) / 20)
    (afterReads ((s.remaining.length + 19) / 20) ⟨s, true⟩) := by
  have hleast : ∀ k, (s.remaining.length + 19) / 20 ≤ k ↔ (afterReads k ⟨s, true⟩).source.remaining = [] := by
    intro k
    rw [remaining_afterReads, List.drop_eq_nil_iff, reads_le_iff]
  refine ⟨drains_readable hf, hleast, fun size b bs => ?_⟩
  have hnil := (hleast _).1 (Nat.le_refl _)
  rw [afterReads_readable] at hnil ⊢
  rw [read_readable]
  exact Source.read_of_nil (Source.advance_ne_full hf _) hnil size b bs

/-! ### Streams and files -/

theorem read_stream_cons (n : Nat) (b : UInt8) (q : Bytes) :
    read n ⟨.stream (b :: q), true⟩ = (.ok ((b :: q).take n), ⟨.stream ((b :: q).drop n), true⟩) := rfl

theorem afterReads_stream (q : Bytes) :
    afterReads ((q.length + 19) / 20) ⟨.stream q, true⟩ = ⟨.stream [], true⟩ := by
  have hle : q.length ≤ (q.length + 19) / 20 * drainSize := reads_le_iff.1 (Nat.le_refl _)
  rw [afterReads_readable, Source.advance, List.drop_of_length_le hle]

theorem afterReads_file (content : Bytes) (position : Nat) :
    afterReads ((content.length - position + 19) / 20) ⟨.file content position, true⟩ =
      ⟨.file content (max position content.length), true⟩ := by
  have hle : content.length - position ≤ (content.length - position + 19) / 20 * drainSize :=
    reads_le_iff.1 (Nat.le_refl _)
  have hend : position + (content.length - position) = max position content.length := by omega
  rw [afterReads_readable, Source.advance, Nat.min_eq_right hle, hend]

theorem empties_stream (q : Bytes) :
    Empties ⟨.stream q, true⟩ ((q.length + 19) / 20) ⟨.stream [], true⟩ := by
  have h := empties (s := .stream q) (by simp)
  rwa [Source.remaining, afterReads_stream] at h

theorem drain_stream (q : Bytes) : drain ⟨.stream q, true⟩ = ((q.length + 19) / 20, ⟨.stream [], true⟩) :=
  (empties_stream q).ends.drain_eq (by simp)

theorem empties_file (content : Bytes) (position : Nat) :
    Empties ⟨.file content position, true⟩ ((content.length - position + 19) / 20)
      ⟨.file content (max position content.length), true⟩ := by
  have h := empties (s := .file content position) (by simp)
  rwa [Source.remaining, List.length_drop, afterReads_file] at h

theorem drain_file (content : Bytes) (position : Nat) : drain ⟨.file content position, true⟩ =
    ((content.length - position + 19) / 20, ⟨.file content (max position content.length), true⟩) :=
  (empties_file content position).ends.drain_eq (by simp)

end Channel

end Haptics
