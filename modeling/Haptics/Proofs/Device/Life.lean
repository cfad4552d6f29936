import Haptics.Proofs.Device.Handle

/-!
# The life of a mouse

A mouse is opened, closed and played in any order (`Mouse.Use`). However it is used, it is open exactly as
long as it holds a handle, it becomes terminal only by a play that finds the device gone, and it makes no
call on a handle that it has closed (`Mouse.uses_lifecycle`).
-/

namespace Haptics

variable {W H : Type}

namespace Traced

variable {s : Traced W} {n : Nat}

theorem Tended.isOpen_or_isClosed {held : Option Nat} (h : s.Tended held) (n : Nat) :
    s.IsOpen n ∨ s.IsClosed n := by
  by_cases hn : n < s.acquired
  · by_cases hh : held = some n
    · exact .inl (h.isOpen n hh)
    · exact .inr (h.isClosed n hn hh)
  · refine .inl fun x hx => ?_
    rw [h.fresh n (Nat.not_lt.1 hn)] at hx
    cases hx

/-- Nothing follows a closing, and no other closing precedes it. -/
theorem eq_nil_of_close {l l' : List Call} {r : Except IoError Unit} (h : s.IsOpen n ∨ s.IsClosed n)
    (hl : s.callsOn n = l ++ .close r :: l') : l' = [] ∧ ∀ x ∈ l, x.isClose = false := by
  rcases h with h | ⟨l₀, r₀, hc, hopen⟩
  · have hx := h (.close r) (by rw [hl]; simp)
    cases hx
  · -- the closing is the last call, so nothing can come after another one
    rw [hc] at hl
    rcases List.eq_nil_or_concat l' with rfl | ⟨l'', y, rfl⟩
    · obtain ⟨rfl, -⟩ := List.append_inj' hl rfl
      exact ⟨rfl, hopen⟩
    · rw [List.concat_eq_append, ← List.cons_append, ← List.append_assoc] at hl
      obtain ⟨rfl, -⟩ := List.append_inj' hl rfl
      have hx := hopen (.close r) (by simp)
      cases hx

end Traced

namespace Mouse

inductive Use where
  | acquire
  | close
  | play (effect : Effect)
  | send (number : Int64)

def Use.isPlay : Use → Bool
  | play _ | send _ => true
  | acquire | close => false

def use (t : Transport W H) (m : Mouse H) (u : Use) (w : W) :
    Except DeviceError (Option Outcome) × Mouse H × W :=
  match u with
  | .acquire =>
    match m.opened t w with
    | (r, m, w) => (r.map fun _ => none, m, w)
  | .close =>
    match m.closed t w with
    | (r, m, w) => (r.map fun _ => none, m, w)
  | .play e =>
    match m.play t e w with
    | (r, m, w) => (r.map some, m, w)
  | .send n =>
    match m.send t n w with
    | (r, m, w) => (r.map some, m, w)

/-- The mouse and the world after these uses, one after the other. -/
def uses (t : Transport W H) (m : Mouse H) (us : List Use) (w : W) : Mouse H × W :=
  us.foldl (fun x u => (x.1.use t u x.2).2) (m, w)

/-- A mouse as it is made, with the number of handles that are held then. -/
inductive IsMade : Mouse (Nat × H) → Nat → Prop where
  | new (c : Connection) (path : String) (index : Option UInt8) (ms : UInt64) :
    IsMade (.new c path index ms) 0
  | holding (c : Connection) (path : String) (index : Option UInt8) (ms : UInt64) (h : H) :
    IsMade (.holding c path index ms (0, h)) 1

theorem IsMade.inOrder {m : Mouse (Nat × H)} {n : Nat} (h : m.IsMade n) (w : W) :
    m.InOrder (Traced.start w n) := by
  cases h with
  | new => exact ⟨by simp [Sound, Mouse.new], Traced.Tended.start w none (by simp)⟩
  | holding => exact ⟨by simp [Sound, Mouse.holding], Traced.Tended.start w (some 0) (by simp)⟩

theorem isDisconnect_iff {r : Except DeviceError Outcome} :
    isDisconnect r = true ↔ ∃ e, r = .error (.disconnected e) := by
  unfold isDisconnect
  split
  · exact iff_of_true rfl ⟨_, rfl⟩
  · rename_i h
    exact iff_of_false Bool.false_ne_true fun ⟨e, he⟩ => h e he

section
variable {t : Transport W H} {m : Mouse H} {w : W}

/-- A mouse that fails to open stays what it was. -/
theorem opened_error {err : DeviceError} {m' : Mouse H} {w' : W}
    (h : m.opened t w = (.error err, m', w')) :
    m' = m ∧ (m.state = .unopened ∨ m.state = .terminal ∧ w' = w) := by
  unfold opened at h
  split at h
  · cases h
  · cases h; exact ⟨rfl, .inr ⟨‹_›, rfl⟩⟩
  · split at h <;> cases h
    exact ⟨rfl, .inl ‹_›⟩

theorem opened_state : (m.opened t w).2.1.state = .terminal ↔ m.state = .terminal := by
  unfold opened
  split
  · exact Iff.rfl
  · exact Iff.rfl
  · rename_i hs
    rcases t.acquire m.connection m.path w with ⟨e | g, w'⟩ <;> simp [hs]

theorem closed_state : (m.closed t w).2.1.state = if m.state = .opened then .unopened else m.state := by
  rcases hg : m.transport with _ | g
  · simp only [closed, hg]
  · obtain ⟨r, hr⟩ := closed_of_some (t := t) (w := w) hg
    rw [hr]

theorem closed_transport : (m.closed t w).2.1.transport = none := by
  rcases hg : m.transport with _ | g
  · simp only [closed, hg]
  · obtain ⟨r, hr⟩ := closed_of_some (t := t) (w := w) hg
    rw [hr]

/-- A mouse that was closed is not open, and closing it again does nothing. -/
theorem closed_closed : (m.closed t w).2.1.state ≠ .opened ∧
    (m.closed t w).2.1.closed t (m.closed t w).2.2 = (.ok (), (m.closed t w).2) := by
  have hs : (m.closed t w).2.1.state ≠ .opened := by
    rw [closed_state]
    split <;> simp_all
  exact ⟨hs, closed_of_none closed_transport hs⟩

/-- A play that finds the device gone ends the life of an open mouse; any other leaves it as it is. -/
theorem play_cases (e : Effect) (h : m.Sound) :
    (m.state = .opened ∧ isDisconnect (m.play t e w).1 = true ∧ (m.play t e w).2.1.state = .terminal) ∨
      (m.play t e w).2.1 = m ∧ (m.state = .opened → isDisconnect (m.play t e w).1 = false) := by
  by_cases hs : m.state = .opened
  · obtain ⟨g, hg⟩ := h.transport_of_opened hs
    rcases hr : transmit t m g e w with ⟨r, w'⟩
    cases hd : isDisconnect r with
    | true =>
      rw [play_of_disconnect hs hg hr hd]
      exact .inl ⟨hs, hd, rfl⟩
    | false =>
      rw [play_of_not_disconnect hs hg hr hd]
      exact .inr ⟨rfl, fun _ => hd⟩
  · rw [play_of_not_opened hs]
    exact .inr ⟨rfl, fun ho => absurd ho hs⟩

/-- A mouse is terminal after a use if it was before, or if the use was a play that found the device of an
open mouse gone. -/
theorem use_terminal (u : Use) (h : m.Sound) :
    (m.use t u w).2.1.state = .terminal ↔ m.state = .terminal ∨
      m.state = .opened ∧ u.isPlay = true ∧ ∃ e, (m.use t u w).1 = .error (.disconnected e) := by
  have hplay : ∀ e, (m.play t e w).2.1.state = .terminal ↔ m.state = .terminal ∨
      m.state = .opened ∧ ∃ e', (m.play t e w).1.map some = .error (.disconnected e') := by
    intro e
    have hmap : (∃ e', (m.play t e w).1.map some = .error (.disconnected e')) ↔
        isDisconnect (m.play t e w).1 = true := by
      rw [isDisconnect_iff]
      cases (m.play t e w).1 <;> simp [Except.map]
    rw [hmap]
    rcases play_cases (t := t) (w := w) e h with ⟨hs, hd, ht⟩ | ⟨hm, hd⟩
    · simp [hs, hd, ht]
    · rw [hm]
      constructor
      · exact .inl
      · rintro (ho | ⟨hs, hgone⟩)
        · exact ho
        · rw [hd hs] at hgone
          cases hgone
  cases u with
  | acquire => simpa [use, Use.isPlay] using opened_state
  | close =>
    simp only [use, Use.isPlay, closed_state]
    split <;> simp_all
  | play e => simpa [use, Use.isPlay] using hplay e
  | send n =>
    simp only [use, Use.isPlay, send]
    split
    · rename_i err _
      cases err <;> simp [Except.map, DeviceError.ofWire]
    · simpa using hplay _

/-- A play that does not find the device gone leaves the mouse as it is. -/
theorem use_play_same {u : Use} (h : m.Sound) (hu : u.isPlay = true)
    (hr : ∀ e, (m.use t u w).1 ≠ .error (.disconnected e)) : (m.use t u w).2.1 = m := by
  have hplay : ∀ e, (∀ e', (m.play t e w).1.map some ≠ .error (.disconnected e')) →
      (m.play t e w).2.1 = m := by
    intro e hr
    rcases play_cases (t := t) (w := w) e h with ⟨-, hd, -⟩ | ⟨hm, -⟩
    · obtain ⟨e', he⟩ := isDisconnect_iff.1 hd
      exact absurd (by rw [he]; rfl) (hr e')
    · exact hm
  cases u with
  | acquire | close => cases hu
  | play e => exact hplay e hr
  | send n =>
    simp only [use, send] at hr ⊢
    split at hr
    · rfl
    · exact hplay _ hr

end

variable {t : Transport W H} {m : Mouse (Nat × H)} {s : Traced W}

theorem use_inOrder (u : Use) (h : m.InOrder s) :
    (m.use t.traced u s).2.1.InOrder (m.use t.traced u s).2.2 := by
  cases u with
  | acquire => exact opened_inOrder h
  | close => exact closed_inOrder h
  | play e => exact play_inOrder e h
  | send n =>
    simp only [use, send]
    split
    · exact h
    · exact play_inOrder _ h

theorem uses_inOrder (us : List Use) (h : m.InOrder s) :
    (m.uses t.traced us s).1.InOrder (m.uses t.traced us s).2 := by
  induction us generalizing m s with
  | nil => exact h
  | cons u us ih => exact ih (use_inOrder u h)

/-- However a mouse has been used since it was made, it is open exactly as long as it holds a handle. A mouse
that fails to open stays what it was. It becomes terminal only by a play that finds the device of an open
mouse gone, and then it remains so; any other play leaves the mouse as it is. After a closing it is not
open, and closing it once more does nothing. Each handle is closed at most once, and no call on it follows. -/
theorem uses_lifecycle (t : Transport W H) {m₀ : Mouse (Nat × H)} {n : Nat} (h₀ : m₀.IsMade n) (w : W)
    (us : List Use) :
    let m := (m₀.uses t.traced us (Traced.start w n)).1
    let s := (m₀.uses t.traced us (Traced.start w n)).2
    (m.state = .opened ↔ m.transport.isSome = true) ∧
      (∀ err m' s', m.opened t.traced s = (.error err, m', s') → m' = m ∧ m.transport = none ∧
        (m.state = .unopened ∨ m.state = .terminal ∧ s' = s)) ∧
      (∀ u, (m.use t.traced u s).2.1.state = .terminal ↔ m.state = .terminal ∨
        m.state = .opened ∧ u.isPlay = true ∧ ∃ e, (m.use t.traced u s).1 = .error (.disconnected e)) ∧
      (∀ u, u.isPlay = true → (∀ e, (m.use t.traced u s).1 ≠ .error (.disconnected e)) →
        (m.use t.traced u s).2.1 = m) ∧
      (∀ r m' s', m.closed t.traced s = (r, m', s') →
        m'.state ≠ .opened ∧ m'.closed t.traced s' = (.ok (), m', s')) ∧
      ∀ k l r l', s.callsOn k = l ++ .close r :: l' → l' = [] ∧ ∀ x ∈ l, x.isClose = false := by
  intro m s
  have h : m.InOrder s := uses_inOrder us (h₀.inOrder w)
  refine ⟨h.sound, fun err m' s' ho => ?_, fun u => use_terminal u h.sound,
    fun u hu hr => use_play_same h.sound hu hr, fun r m' s' hc => ?_,
    fun k l r l' hl => Traced.eq_nil_of_close (h.tended.isOpen_or_isClosed k) hl⟩
  · obtain ⟨rfl, hs⟩ := opened_error ho
    refine ⟨rfl, h.sound.transport_of_ne ?_, hs⟩
    rcases hs with hs | ⟨hs, -⟩ <;> simp [hs]
  · have hcc := closed_closed (t := t.traced) (m := m) (w := s)
    rw [hc] at hcc
    exact hcc

/-- The device is gone when the answer is awaited; the close that follows and an opening do nothing. -/
theorem uses_lifecycle_lost :
    let t : Transport Unit Unit := ⟨fun _ _ w => (.ok (), w), fun _ w => (0, w), fun _ _ w => (.ok (), w),
      fun _ _ _ w => (.error (.other "timeout"), w), fun _ w => (.ok (), w)⟩
    let m₀ : Mouse (Nat × Unit) := .holding .bolt "/dev/hidraw0" (some 2) 100 (0, ())
    let m := (m₀.uses t.traced [.acquire, .play ⟨3⟩, .close, .acquire] (Traced.start () 1)).1
    let s := (m₀.uses t.traced [.acquire, .play ⟨3⟩, .close, .acquire] (Traced.start () 1)).2
    m₀.IsMade 1 ∧ m.state = .terminal ∧ (s.callsOn 0).length = 4 ∧
      (m.state = .opened ↔ m.transport.isSome = true) ∧
      (∀ u, (m.use t.traced u s).2.1.state = .terminal) ∧
      ∀ l r l', s.callsOn 0 = l ++ .close r :: l' → l' = [] ∧ ∀ x ∈ l, x.isClose = false := by
  intro t m₀ m s
  have hm : m₀.IsMade 1 := .holding ..
  obtain ⟨hs, -, hterm, -, -, hcalls⟩ :=
    uses_lifecycle t hm () [.acquire, .play ⟨3⟩, .close, .acquire]
  exact ⟨hm, rfl, rfl, hs, fun u => (hterm u).2 (.inl rfl), hcalls 0⟩

end Mouse

end Haptics
