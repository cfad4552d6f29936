import Haptics.Proofs.Device.Dialogue

/-!
# Handles and the calls on them

`Traced.Tended` says of the record of all calls that each handle was closed by the last call on it, and by
no call before, but for the handle that is held. A mouse that is open exactly as long as it holds a handle
is `Mouse.InOrder` with such a record, and it stays so whatever it is used for.
-/

namespace Haptics

variable {W H : Type}

namespace Call

def isClose : Call → Bool
  | close _ => true
  | _ => false

def error? : Call → Option IoError
  | write _ (.error e) | read _ _ (.error e) | close (.error e) => some e
  | _ => none

end Call

namespace Traced

variable {s : Traced W} {w : W} {k n : Nat} {x : Call} {held : Option Nat}

def IsOpen (s : Traced W) (n : Nat) : Prop := ∀ x ∈ s.callsOn n, x.isClose = false

/-- The handle `n` was closed once, and no call was made on it since. -/
def IsClosed (s : Traced W) (n : Nat) : Prop :=
  ∃ l r, s.callsOn n = l ++ [.close r] ∧ ∀ x ∈ l, x.isClose = false

theorem callsOn_record_self : (s.record w n x).callsOn n = s.callsOn n ++ [x] := by
  simp [callsOn, record]

theorem callsOn_record_ne (h : k ≠ n) : (s.record w n x).callsOn k = s.callsOn k := by
  simp [callsOn, record, h.symm]

/-- Every handle was closed by the last call on it, but for the one that is held. -/
structure Tended (s : Traced W) (held : Option Nat) : Prop where
  held_lt : ∀ n, held = some n → n < s.acquired
  isOpen : ∀ n, held = some n → s.IsOpen n
  isClosed : ∀ n, n < s.acquired → held ≠ some n → s.IsClosed n
  fresh : ∀ n, s.acquired ≤ n → s.callsOn n = []

namespace Tended

theorem start (w : W) (held : Option Nat) (h : ∀ n, held = some n → n = 0) :
    (Traced.start w held.toList.length).Tended held := by
  cases held with
  | none => exact ⟨by simp, by simp, fun n hn => absurd hn (Nat.not_lt_zero n), fun _ _ => rfl⟩
  | some k =>
    obtain rfl := h k rfl
    refine ⟨fun n hn => ?_, fun n _ x hx => absurd hx List.not_mem_nil, fun n hn hne => ?_, fun _ _ => rfl⟩
    · rw [← Option.some.inj hn]; exact Nat.zero_lt_one
    · have hn : n < 1 := hn
      exact absurd (congrArg some (Nat.lt_one_iff.1 hn).symm) hne

theorem world (h : s.Tended held) (w : W) : Tended { s with world := w } held :=
  ⟨h.held_lt, h.isOpen, h.isClosed, h.fresh⟩

theorem acquire (h : s.Tended none) (w : W) :
    Tended { s with world := w, acquired := s.acquired + 1 } (some s.acquired) := by
  refine ⟨fun n hn => ?_, fun n hn x hx => ?_, fun n hn hne => ?_, fun n hn => h.fresh n (Nat.le_of_succ_le hn)⟩
  · rw [← Option.some.inj hn]; exact Nat.lt_succ_self _
  · obtain rfl := Option.some.inj hn
    have hnil := h.fresh s.acquired (Nat.le_refl _)
    change x ∈ s.callsOn s.acquired at hx
    rw [hnil] at hx
    cases hx
  · refine h.isClosed n ?_ (by simp)
    have hlt : n < s.acquired + 1 := hn
    have hne : n ≠ s.acquired := fun he => hne (congrArg some he.symm)
    omega

theorem record (h : s.Tended (some n)) (hx : x.isClose = false) : (s.record w n x).Tended (some n) := by
  refine ⟨h.held_lt, fun k hk y hy => ?_, fun k hk hne => ?_, fun k hk => ?_⟩
  · obtain rfl := Option.some.inj hk
    rw [callsOn_record_self] at hy
    rcases List.mem_append.1 hy with hy | hy
    · exact h.isOpen n rfl y hy
    · rw [List.mem_singleton.1 hy]; exact hx
  · have hkn : k ≠ n := fun he => hne (congrArg some he.symm)
    obtain ⟨l, r, hl, hopen⟩ := h.isClosed k hk hne
    exact ⟨l, r, by rw [callsOn_record_ne hkn, hl], hopen⟩
  · have hn := h.held_lt n rfl
    have hk : s.acquired ≤ k := hk
    rw [callsOn_record_ne (by omega), h.fresh k hk]

theorem close (h : s.Tended (some n)) (r : Except IoError Unit) :
    (s.record w n (.close r)).Tended none := by
  refine ⟨by simp, by simp, fun k hk _ => ?_, fun k hk => ?_⟩
  · by_cases hkn : k = n
    · exact ⟨s.callsOn n, r, by rw [hkn, callsOn_record_self], h.isOpen n rfl⟩
    · obtain ⟨l, r', hl, hopen⟩ := h.isClosed k hk fun he => hkn (Option.some.inj he).symm
      exact ⟨l, r', by rw [callsOn_record_ne hkn, hl], hopen⟩
  · have hn := h.held_lt n rfl
    have hk : s.acquired ≤ k := hk
    rw [callsOn_record_ne (by omega), h.fresh k hk]

end Tended

end Traced

namespace Mouse

def handle? (m : Mouse (Nat × H)) : Option Nat := m.transport.map (·.1)

/-- The mouse is open exactly as long as it holds a handle. -/
def Sound (m : Mouse H) : Prop := m.state = .opened ↔ m.transport.isSome = true

/-- The mouse is sound, and all handles but its own are closed. -/
structure InOrder (m : Mouse (Nat × H)) (s : Traced W) : Prop where
  sound : m.Sound
  tended : s.Tended m.handle?

theorem Sound.transport_of_ne {m : Mouse H} (h : m.Sound) (hs : m.state ≠ .opened) : m.transport = none := by
  cases ht : m.transport with
  | none => rfl
  | some => exact absurd (h.2 (by rw [ht]; rfl)) hs

theorem Sound.transport_of_opened {m : Mouse H} (h : m.Sound) (hs : m.state = .opened) :
    ∃ g, m.transport = some g :=
  Option.isSome_iff_exists.1 (h.1 hs)

section
variable {t : Transport W H} {m : Mouse H} {w : W}

theorem closed_of_none (hg : m.transport = none) (hs : m.state ≠ .opened) :
    m.closed t w = (.ok (), m, w) := by
  obtain ⟨c, p, i, ms, g, st⟩ := m
  obtain rfl := hg
  have hs : st ≠ .opened := hs
  simp only [closed, if_neg hs]

theorem closed_of_some {g : H} (hg : m.transport = some g) :
    ∃ r, m.closed t w =
      (r, { m with state := if m.state = .opened then .unopened else m.state, transport := none },
        (t.close g w).2) := by
  simp only [closed, hg]
  rcases t.close g w with ⟨e | _, w'⟩ <;> exact ⟨_, rfl⟩

theorem play_of_not_opened {e : Effect} (hs : m.state ≠ .opened) :
    m.play t e w = (.error (if m.state = .terminal then .spent else .notOpen), m, w) := by
  unfold play
  cases hm : m.state with
  | unopened | terminal => rfl
  | opened => exact absurd hm hs

end

variable {t : Transport W H} {m : Mouse (Nat × H)} {s : Traced W}

theorem InOrder.handle?_of_ne (h : m.InOrder s) (hs : m.state ≠ .opened) : m.handle? = none := by
  rw [handle?, h.sound.transport_of_ne hs]; rfl

theorem opened_inOrder (h : m.InOrder s) :
    (m.opened t.traced s).2.1.InOrder (m.opened t.traced s).2.2 := by
  unfold opened
  cases hs : m.state with
  | opened | terminal => exact h
  | unopened =>
    have hne : m.state ≠ .opened := by simp [hs]
    have ht := h.tended
    rw [h.handle?_of_ne hne] at ht
    simp only [Transport.traced]
    rcases t.acquire m.connection m.path s.world with ⟨e | g, w⟩
    · exact ⟨h.sound, by rw [h.handle?_of_ne hne]; exact ht.world w⟩
    · exact ⟨by simp [Sound], ht.acquire w⟩

theorem closed_inOrder (h : m.InOrder s) :
    (m.closed t.traced s).2.1.InOrder (m.closed t.traced s).2.2 := by
  rcases hg : m.transport with _ | g
  · have hne : m.state ≠ .opened := fun hs => by
      obtain ⟨g, hg'⟩ := h.sound.transport_of_opened hs
      rw [hg] at hg'; cases hg'
    rw [closed_of_none hg hne]
    exact h
  · have ht := h.tended
    rw [show m.handle? = some g.1 by rw [handle?, hg]; rfl] at ht
    obtain ⟨r, hr⟩ := closed_of_some (t := t.traced) (w := s) hg
    rw [hr]
    refine ⟨?_, ht.close _⟩
    unfold Sound
    dsimp only
    split <;> simp_all

theorem transmit_tended {g : Nat × H} (e : Effect) (h : s.Tended (some g.1)) :
    (transmit t.traced m g e s).2.Tended (some g.1) := by
  cases hc : m.connection with
  | bluetooth =>
    simp only [transmit, hc, post, t.traced_write]
    split <;> rename_i heq <;> obtain ⟨-, rfl⟩ := Prod.mk.inj heq <;> exact h.record rfl
  | bolt =>
    -- the reports that wait are dropped whatever comes then
    have hd := h.record (w := (t.discard g.2 s.world).2) (x := .discard (t.discard g.2 s.world).1) rfl
    simp only [transmit, hc, exchange, t.traced_discard, t.traced_write, t.traced_read]
    split <;> rename_i heq <;> obtain ⟨-, rfl⟩ := Prod.mk.inj heq
    · exact hd.record rfl
    · split <;> rename_i heq <;> obtain ⟨-, rfl⟩ := Prod.mk.inj heq <;> exact (hd.record rfl).record rfl

theorem play_inOrder (e : Effect) (h : m.InOrder s) :
    (m.play t.traced e s).2.1.InOrder (m.play t.traced e s).2.2 := by
  by_cases hs : m.state = .opened
  · obtain ⟨g, hg⟩ := h.sound.transport_of_opened hs
    have ht := h.tended
    have hm : m.handle? = some g.1 := by rw [handle?, hg]; rfl
    rw [hm] at ht
    have htr := transmit_tended (t := t) (m := m) (g := g) e ht
    rcases hr : transmit t.traced m g e s with ⟨r, s'⟩
    rw [hr] at htr
    cases hd : isDisconnect r with
    | true =>
      rw [play_of_disconnect hs hg hr hd]
      exact ⟨by simp [Sound], htr.close _⟩
    | false =>
      rw [play_of_not_disconnect hs hg hr hd]
      exact ⟨h.sound, hm ▸ htr⟩
  · rw [play_of_not_opened hs]
    exact h

end Mouse

end Haptics
