import Haptics.System.Host

/-!
# Waits that have a deadline

No wait that is counted in 64-bit milliseconds is too long for the clock while it reads less than 2^62 seconds
(`Clock.deadline?_of_lt`). A read on a host then fails for what the node does, never for want of a deadline.
-/

namespace Haptics

theorem Clock.deadline?_of_lt {nowMs : Nat} (hnow : nowMs < (1 <<< 62) * 1000) (waitMs : UInt64) :
    deadline? nowMs waitMs = some (nowMs + waitMs.toNat) := by
  have hwait := waitMs.toNat_lt
  have hle : (nowMs + waitMs.toNat) / 1000 ≤ lastSecond := by
    show (nowMs + waitMs.toNat) / 1000 ≤ 2 ^ 64 / 2 - 1
    omega
  exact if_pos hle

/-- What goes wrong with a node has a number. -/
theorem Source.exists_of_read_error {n : Nat} {s : Source} {e : IoError} (h : (s.read n).1 = .error e) :
    ∃ number, e = .os number := by
  unfold read at h
  split at h
  · split at h
    · cases h
    · exact ⟨_, (Except.error.inj h).symm⟩
  · cases h
  · cases h

theorem Channel.exists_of_read_error {n : Nat} {c : Channel} {e : IoError} (h : (c.read n).1 = .error e) :
    ∃ number, e = .os number := by
  unfold read at h
  split at h
  · exact Source.exists_of_read_error h
  · exact ⟨_, (Except.error.inj h).symm⟩

theorem Host.noAnswer_ne_noDeadline : noAnswer ≠ noDeadline := by decide

theorem Host.read_ne_noDeadline {h : Host} (hnow : h.nowMs < (1 <<< 62) * 1000) (i : Handle) (size : Nat)
    (timeoutMs : UInt64) : (h.read i size timeoutMs).1 ≠ .error noDeadline := by
  intro hr
  simp only [read, Clock.deadline?_of_lt hnow] at hr
  split at hr
  · cases hr
  rename_i o c _
  split at hr
  · rename_i e c' hc
    split at hr
    · exact noAnswer_ne_noDeadline (Except.error.inj hr)
    · obtain ⟨number, rfl⟩ := Channel.exists_of_read_error (congrArg Prod.fst hc)
      cases Except.error.inj hr
  · cases hr

end Haptics
