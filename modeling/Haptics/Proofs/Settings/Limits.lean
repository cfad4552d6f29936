import Haptics.CommandLine.Run
import Haptics.Delivery.Depot
import Haptics.Proofs.Settings.Upkeep
import Haptics.Proofs.System.Deadline

/-!
# What settings ask of the machine

The check of settings has no upper bounds. A wait needs none, since the clock can show the deadline of any wait
that can be set. A queue does: one for 2^61 effects or more cannot be made, and the check lets its capacity pass
(`Settings.check_limits`, `Settings.check_overlarge`).
-/

namespace Haptics

namespace Inbox

variable {n : Nat}

theorem ofCapacity?_of_le (hn : 1 ≤ n) (h : n ≤ largestCapacity) :
    ofCapacity? n = some ⟨n, [], false, 0, 0⟩ := by
  have hmax : max n 1 = n := Nat.max_eq_left hn
  rw [ofCapacity?, hmax, if_pos h]

theorem ofCapacity?_of_lt (h : largestCapacity < n) : ofCapacity? n = none := by
  have hmax : n ≤ max n 1 := Nat.le_max_left n 1
  exact if_neg (Nat.not_le.2 (Nat.lt_of_lt_of_le h hmax))

end Inbox

theorem Depot.capacity_of_ofCapacity? {D : Type} {n : Nat} (hn : 1 ≤ n) (h : n ≤ Inbox.largestCapacity)
    (preferred : Option Connection) (device : Option D) :
    ∃ d, ofCapacity? n preferred device = some d ∧ d.inbox.capacity = n := by
  rw [ofCapacity?, Inbox.ofCapacity?_of_le hn h]
  exact ⟨_, rfl, rfl⟩

theorem Depot.ofCapacity?_eq_none {D : Type} {n : Nat} (h : Inbox.largestCapacity < n)
    (preferred : Option Connection) (device : Option D) : ofCapacity? n preferred device = none := by
  rw [ofCapacity?, Inbox.ofCapacity?_of_lt h]
  rfl

theorem Search.timeoutMs_of_find {H : Type} {l : Search} {f : Files} {preferred : Option Connection}
    {m : Mouse H} (h : l.find f preferred = some m) : m.timeoutMs = l.timeoutMs := by
  obtain ⟨c, -, rfl⟩ := Option.map_eq_some_iff.1 h
  rfl

namespace Settings

theorem one_le_capacity_of_check {s : Settings} (h : s.check = .ok ()) : 1 ≤ s.daemon.queueCapacity.toNat := by
  have hq := (runs_of_check h).queue
  exact UInt64.le_iff_toNat_le.1 hq

/-- Settings that pass the check give a queue of exactly the capacity set, as long as this is less than 2^61; no
queue can be made of any other. Every wait for an answer has a deadline while the clock reads less than 2^62
seconds, so that no read of an answer fails for want of one; and every mouse that is found waits as long as set. -/
theorem check_limits {s : Settings} (h : s.check = .ok ()) :
    (∀ {D : Type} (preferred : Option Connection) (device : Option D),
      let capacity := s.daemon.queueCapacity.toNat
      (capacity < 1 <<< 61 →
        ∃ d, Depot.ofCapacity? capacity preferred device = some d ∧ d.inbox.capacity = capacity) ∧
      (1 <<< 61 ≤ capacity → Depot.ofCapacity? capacity preferred device = none)) ∧
    (∀ host : Host, host.nowMs < (1 <<< 62) * 1000 →
      Clock.deadline? host.nowMs s.daemon.responseTimeoutMs =
        some (host.nowMs + s.daemon.responseTimeoutMs.toNat) ∧
      ∀ i size, (host.read i size s.daemon.responseTimeoutMs).1 ≠ .error Host.noDeadline) ∧
    ∀ (o : CommandLine.Options) (f : Files) (preferred : Option Connection) (m : Mouse Host.Handle),
      (CommandLine.searchOf o s).find f preferred = some m → m.timeoutMs = s.daemon.responseTimeoutMs := by
  refine ⟨fun preferred device => ?_, fun host hnow => ⟨Clock.deadline?_of_lt hnow _, ?_⟩, ?_⟩
  · intro capacity
    have hlargest : Inbox.largestCapacity + 1 = 1 <<< 61 := by decide
    constructor
    · intro hlt
      exact Depot.capacity_of_ofCapacity? (one_le_capacity_of_check h) (by omega) preferred device
    · intro hle
      exact Depot.ofCapacity?_eq_none (by omega) preferred device
  · intro i size
    exact Host.read_ne_noDeadline hnow i size _
  · intro o f preferred m hm
    exact Search.timeoutMs_of_find hm

/-- The largest queue that can be made, and the longest wait that can be set. -/
theorem check_limits_largest :
    let s : Settings := { default with daemon := ⟨2305843009213693951, 18446744073709551615, none, none⟩ }
    let host : Host := ⟨⟨[.new (.pipe true [])]⟩, [⟨0, true, 0, true⟩], "/", (1 <<< 62) * 1000 - 1⟩
    s.check = .ok () ∧
      (∃ d : Depot Unit, Depot.ofCapacity? 2305843009213693951 none none = some d ∧
        d.inbox.capacity = 2305843009213693951) ∧
      (host.read 0 20 18446744073709551615).1 ≠ .error Host.noDeadline := by
  intro s host
  have hs : s.check = .ok () := by decide
  obtain ⟨hqueue, hwait, -⟩ := check_limits hs
  exact ⟨hs, (hqueue none none).1 (by decide), (hwait host (by decide)).2 0 20⟩

/-- A document that asks for a queue too large to be made passes the check. -/
theorem check_overlarge :
    let s : Settings := { default with daemon := { DaemonSettings.default with queueCapacity := 2305843009213693952 } }
    parse? (Bytes.ofString "\x7b\"daemon\":\x7b\"queue_capacity\":2305843009213693952\x7d\x7d") = some s ∧
      s.check = .ok () ∧ Depot.ofCapacity? (D := Unit) s.daemon.queueCapacity.toNat none none = none ∧
      ¬ ∀ s : Settings, s.check = .ok () → ∃ d : Depot Unit,
        Depot.ofCapacity? s.daemon.queueCapacity.toNat none none = some d ∧
          d.inbox.capacity = s.daemon.queueCapacity.toNat := by
  intro s
  have hs : s.check = .ok () := by decide
  have hnone : Depot.ofCapacity? (D := Unit) s.daemon.queueCapacity.toNat none none = none :=
    Depot.ofCapacity?_eq_none (by decide) none none
  refine ⟨by decide +kernel, hs, hnone, fun h => ?_⟩
  obtain ⟨d, hd, -⟩ := h s hs
  rw [hnone] at hd
  cases hd

end Settings

end Haptics
