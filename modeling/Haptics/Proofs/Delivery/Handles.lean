import Haptics.Proofs.Delivery.Custody
import Haptics.Proofs.Delivery.Frames
import Haptics.Proofs.Device.Life

/-!
# The handles of a courier's mice

A mouse that loses its device under a play closes itself; one that is given up for another reason is closed
by the courier, which gives up each mouse that closed itself. So a courier holds no mouse but an open one
(`Mouse.Serves`), and each handle is closed by one of the two (`Course.run_tended`).
-/

namespace Haptics

variable {W H : Type}

/-- A play fails with an error of a call on the handle or with one about the answer. -/
theorem Dialogue.error?_mem {m : Mouse H} {e : Effect} {l : List Call} {err : DeviceError}
    (h : Dialogue m e l (.error err)) :
    err ≠ .notOpen ∧ ∀ cause, err.cause? = some cause → ∃ x ∈ l, x.error? = some cause := by
  generalize hr : Except.error err = r at h
  cases h with
  | posted => cases hr
  | postFailed | postLost | unsent | unanswered =>
    cases hr
    refine ⟨by simp, fun cause hc => ?_⟩
    cases hc
    simp [Call.error?]
  | answered =>
    obtain ⟨-, rfl⟩ := Mouse.correlate_error hr.symm
    exact ⟨by simp, fun cause hc => by cases hc⟩

namespace Mouse

/-- The mouse with `n` as the number of its handle. -/
def numbered (m : Mouse H) (n : Nat) : Mouse (Nat × H) :=
  ⟨m.connection, m.path, m.index, m.timeoutMs, m.transport.map (n, ·), m.state⟩

/-- What is true of the mouse that a courier holds, if any: it is open, and all handles but its own are
closed. -/
def Serves (m : Option (Mouse (Nat × H))) (s : Traced W) : Prop :=
  match m with
  | none => s.Tended none
  | some m => m.state = .opened ∧ m.InOrder s

theorem numbered_inOrder {m : Mouse H} {s : Traced W} (hm : m.Sound) (h : s.Tended none) (w : W) :
    (m.numbered s.acquired).InOrder
      { s with world := w, acquired := s.acquired + m.transport.toList.length } := by
  obtain ⟨c, p, i, ms, g, st⟩ := m
  cases g with
  | none => exact ⟨hm, h.world w⟩
  | some g => exact ⟨hm, h.acquire w⟩

section
variable {t : Transport W H} {m m' : Mouse (Nat × H)} {s s' : Traced W}

theorem opened_serves (h : m.InOrder s) (ho : m.opened t.traced s = (.ok (), m', s')) :
    m'.state = .opened ∧ m'.InOrder s' := by
  have hin := opened_inOrder (t := t) h
  rw [ho] at hin
  refine ⟨?_, hin⟩
  unfold opened at ho
  split at ho
  · cases ho; assumption
  · cases ho
  · split at ho <;> cases ho
    rfl

theorem play_serves {e : Effect} {r : Except DeviceError Outcome} (hs : m.state = .opened)
    (h : m.InOrder s) (hp : m.play t.traced e s = (r, m', s')) (hd : isDisconnect r = false) :
    m'.state = .opened ∧ m'.InOrder s' := by
  have hin := play_inOrder (t := t) e h
  have hcases := play_cases (t := t.traced) (w := s) e h.sound
  rw [hp] at hin hcases
  rcases hcases with ⟨-, hgone, -⟩ | ⟨hm, -⟩
  · exact absurd (hgone.symm.trans hd) (by decide)
  · exact ⟨by rw [show m' = m from hm, hs], hin⟩

end

end Mouse

namespace Devices

/-- Mice behind a transport whose calls are recorded. A mouse that is found may hold a handle, which gets
the next number. -/
def numberedMice (t : Transport W H) (find : Option Connection → W → Option (Mouse H) × W) :
    Devices (Traced W) (Mouse (Nat × H)) :=
  .ofMice t.traced fun c s =>
    match find c s.world with
    | (none, w) => (none, { s with world := w })
    | (some m, w) =>
      (some (m.numbered s.acquired),
        { s with world := w, acquired := s.acquired + m.transport.toList.length })

theorem numberedMice_guards (t : Transport W H) {find : Option Connection → W → Option (Mouse H) × W}
    (hfind : ∀ c w m w', find c w = (some m, w') → m.Sound) :
    (numberedMice t find).Guards Mouse.Serves Mouse.InOrder Mouse.InOrder where
  missing {c s s'} h hf := by
    rcases hr : find c s.world with ⟨_ | m, w⟩ <;> simp only [numberedMice, ofMice, hr] at hf <;> cases hf
    exact h.world w
  find {c m s s'} h hf := by
    rcases hr : find c s.world with ⟨_ | m, w⟩ <;> simp only [numberedMice, ofMice, hr] at hf <;> cases hf
    exact Mouse.numbered_inOrder (hfind c _ m w hr) h w
  refused {m m' err s s'} h ho := by
    have hin := Mouse.opened_inOrder (t := t) h
    rw [show m.opened t.traced s = (.error err, m', s') from ho] at hin
    obtain ⟨rfl, hs⟩ := Mouse.opened_error ho
    have hne : m'.state ≠ .opened := by
      rcases hs with hs | ⟨hs, -⟩ <;> simp [hs]
    have ht := hin.tended
    rw [hin.handle?_of_ne hne] at ht
    exact ht
  acquire h ho := Mouse.opened_serves h ho
  played h hp := Mouse.play_serves h.1 h.2 hp rfl
  failed {m m' e err s s'} h hp hk := by
    -- an error that does not lose the device is no disconnect, so the mouse is left as it was
    refine Mouse.play_serves h.1 h.2 hp ?_
    cases err <;> first | rfl | cases hk
  lose {m m' e err s s'} h hp _ := by
    have hin := Mouse.play_inOrder (t := t) e h.2
    rw [show m.play t.traced e s = (.error err, m', s') from hp] at hin
    exact hin
  give_up h := h.2
  close {m s} h := by
    have ht := (Mouse.closed_inOrder (t := t) h).tended
    rw [Mouse.handle?, Mouse.closed_transport] at ht
    exact ht

end Devices

namespace Course

/-- After any run over mice that are open as long as they hold a handle, the courier holds no mouse but an
open one. Each play was a dialogue of an open mouse over its handle; so it never fails because the mouse
was not open or had been lost before. All handles but that of the mouse that is held were closed, exactly
once and at the end, and when the depot was stopped, all were. -/
theorem run_tended (t : Transport W H) {find : Option Connection → W → Option (Mouse H) × W}
    (hfind : ∀ c w m w', find c w = (some m, w') → m.Sound) {capacity : Nat}
    {preferred : Option Connection} {device : Option (Mouse H)}
    (hopen : ∀ m, device = some m → m.state = .opened ∧ m.transport.isSome = true)
    {d : Depot (Numbered (Mouse (Nat × H)))}
    (hd : Depot.ofCapacity? capacity preferred (device.map fun m => ⟨0, m.numbered 0⟩) = some d) (w : W)
    (acts : List Act) :
    let c₀ := start d (Logged.start (Traced.start w device.toList.length))
    let c := c₀.run (Devices.numberedMice t find).logged acts
    let s := c.world.world
    (∀ k, c.depot.phase.courier? = some k →
      (∀ m, k.device = some m → m.device.state = .opened ∧
        ∃ h, m.device.transport = some h ∧ h.1 < s.acquired ∧ s.IsOpen h.1) ∧
      ∀ n, n < s.acquired → k.device.bind (·.device.handle?) ≠ some n → s.IsClosed n) ∧
    (∀ x ∈ c.world.lines, ∀ n e r, x.errand = .play n e r → r ≠ .error .notOpen ∧
      ∃ m l, x.Speaks n m e l r ∧ m.state = .opened ∧
        ∀ err cause, r = .error err → err.cause? = some cause → ∃ y ∈ l, y.error? = some cause) ∧
    (Stopped (Devices.numberedMice t find).logged c₀ acts → ∀ n, n < s.acquired → s.IsClosed n) := by
  intro c₀ c s
  obtain ⟨-, hpend, -⟩ := Ledger.of_ofCapacity? hd
  have hg := (Devices.numberedMice_guards t hfind).logged
  have hstart : c₀.Guarded fun d j => Mouse.Serves (d.map (·.device)) j.world ∧
      ∀ x ∈ j.lines, Devices.PlaysHeld (.numberedMice t find) Mouse.Serves x := by
    refine .of_courier (k := .new preferred (device.map fun m => ⟨0, m.numbered 0⟩))
      (by rw [show c₀.depot.phase = _ from hpend]; rfl) ⟨?_, fun x hx => absurd hx List.not_mem_nil⟩
    cases device with
    | none => exact Traced.Tended.start w none (by simp)
    | some m =>
      obtain ⟨hs, ht⟩ := hopen m rfl
      obtain ⟨g, hg⟩ := Option.isSome_iff_exists.1 ht
      refine ⟨hs, by simp [Mouse.Sound, Mouse.numbered, hs, hg], ?_⟩
      rw [show (m.numbered 0).handle? = some 0 by simp [Mouse.handle?, Mouse.numbered, hg]]
      exact .start w (some 0) (by simp)
  have hrun := run_guarded hg hstart acts
  refine ⟨fun k hk => ?_, fun x hx n e r he => ?_, fun hs n hn => ?_⟩
  · obtain ⟨hserves, -⟩ := hrun.courier k hk
    rcases hm : k.device with _ | m <;> rw [hm] at hserves
    · exact ⟨by simp, fun n hn _ => hserves.isClosed n hn (by simp)⟩
    · obtain ⟨hs, hin⟩ : m.device.state = .opened ∧ m.device.InOrder s := hserves
      obtain ⟨g, hg⟩ := hin.sound.transport_of_opened hs
      have hh : m.device.handle? = some g.1 := by rw [Mouse.handle?, hg]; rfl
      refine ⟨fun m' hm' => ?_, fun n hn hne => hin.tended.isClosed n hn hne⟩
      obtain rfl := Option.some.inj hm'
      exact ⟨hs, g, hg, hin.tended.held_lt _ hh, hin.tended.isOpen _ hh⟩
  · obtain ⟨o, -, hlines⟩ := hrun.world
    obtain ⟨m, m', hdev, ⟨hs, hin⟩, hp⟩ := hlines x hx n e r he
    obtain ⟨g, hg⟩ := hin.sound.transport_of_opened hs
    obtain ⟨l, hcalls, hdialogue⟩ := m.play_traced t e x.before hs hg
    rw [show m.play t.traced e x.before = (r, m', x.after) from hp] at hcalls hdialogue
    have hl : x.calls = l.map (g.1, ·) := by rw [Line.calls, hcalls, List.drop_left]
    refine ⟨?_, m, l, ⟨he, hdev, ⟨g, hg, hl⟩, hdialogue⟩, hs, ?_⟩
    · rintro rfl
      exact hdialogue.error?_mem.1 rfl
    · rintro err cause rfl hc
      exact hdialogue.error?_mem.2 cause hc
  · obtain ⟨hend, -⟩ := hs.guarded hg hstart (by rw [show c₀.depot.phase = _ from hpend]; simp)
    exact Traced.Tended.isClosed hend n hn (by simp)

/-- The receiver's answer is too short, so the mouse stays open and the courier closes it; the one that is
found then is still held when the depot is stopped. -/
theorem run_tended_malformed :
    let t : Transport Unit Unit := ⟨fun _ _ w => (.ok (), w), fun _ w => (0, w), fun _ _ w => (.ok (), w),
      fun _ _ _ w => (.ok [16], w), fun _ w => (.ok (), w)⟩
    let find := fun (_ : Option Connection) (w : Unit) =>
      (some (Mouse.new (H := Unit) .bluetooth "/dev/hidraw1" none 100), w)
    let m : Mouse Unit := .holding .bolt "/dev/hidraw0" (some 2) 100 ()
    let acts := [Act.request 3, .start, .look, .take, .proceed, .proceed, .proceed, .signal, .look, .leave,
      .join]
    (∀ c w m w', find c w = (some m, w') → m.Sound) ∧
      (∀ m', some m = some m' → m'.state = .opened ∧ m'.transport.isSome = true) ∧
      ∃ d, Depot.ofCapacity? 1 none (some ⟨0, m.numbered 0⟩) = some d ∧
        let c₀ := start d (Logged.start (Traced.start () 1))
        let s := (c₀.run (Devices.numberedMice t find).logged acts).world.world
        Stopped (Devices.numberedMice t find).logged c₀ acts ∧ s.acquired = 2 ∧ s.IsClosed 0 ∧
          s.IsClosed 1 := by
  intro t find m acts
  have hfind : ∀ c w m w', find c w = (some m, w') → m.Sound := by
    intro c w m w' h
    cases h
    simp [Mouse.Sound, Mouse.new]
  have hopen : ∀ m', some m = some m' → m'.state = .opened ∧ m'.transport.isSome = true := by
    intro m' h
    cases h
    exact ⟨rfl, rfl⟩
  have hd : Depot.ofCapacity? 1 none ((some m).map fun m => Numbered.mk 0 (m.numbered 0)) =
    some ⟨⟨1, [], false, 0, 0⟩, ⟨0, 0⟩, .pending ⟨none, some ⟨0, m.numbered 0⟩, 0⟩, false, false, 0⟩ := rfl
  obtain ⟨-, -, hstop⟩ := run_tended t hfind hopen hd () acts
  refine ⟨hfind, hopen, _, hd, ?_⟩
  intro c₀ s
  have hs : Stopped (Devices.numberedMice t find).logged c₀ acts :=
    ⟨acts.dropLast, [], rfl, by decide, fun h => absurd (congrArg (·.courier?.isSome) h) (by decide), rfl⟩
  have hn : s.acquired = 2 := rfl
  have hclosed : ∀ n, n < s.acquired → s.IsClosed n := hstop hs
  rw [hn] at hclosed
  exact ⟨hs, hn, hclosed 0 (by decide), hclosed 1 (by decide)⟩

end Course

end Haptics
