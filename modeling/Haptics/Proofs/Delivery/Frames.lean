import Haptics.Proofs.Delivery.Accounting
import Haptics.Proofs.Delivery.Plays
import Haptics.Proofs.Device.Dialogue

/-!
# The frames on the wire

Couriers over mice: the frames that reach any device node, in the order of time, are those of the
deliveries one after the other. A delivery writes the command for its effect at most twice, and twice only
if the first mouse was lost while its answer was awaited (`Course.run_frames`).
-/

namespace Haptics

open Courier (Stage Progress)

variable {W H : Type}

/-- Mice behind a transport whose calls are recorded; `find` may give any mice, but speaks to none. -/
def Devices.tracedMice (t : Transport W H) (find : Option Connection → W → Option (Mouse (Nat × H)) × W) :
    Devices (Traced W) (Mouse (Nat × H)) :=
  .ofMice t.traced fun c s =>
    match find c s.world with
    | (m, w) => (m, { s with world := w })

namespace Line

variable (x : Line (Traced W) (Mouse (Nat × H)))

/-- The calls on handles that the line stands for. -/
def calls : List (Nat × Call) := x.after.calls.drop x.before.calls.length

/-- The frames that were written. -/
def frames : List Bytes := x.calls.filterMap (·.2.written?)

/-- The line is of a play by a dialogue over the handle of its mouse. -/
structure Speaks (n : Nat) (m : Mouse (Nat × H)) (e : Effect) (l : List Call)
    (r : Except DeviceError Outcome) : Prop where
  errand_eq : x.errand = .play n e r
  device_eq : x.device = some m
  calls_eq : ∃ h, m.transport = some h ∧ x.calls = l.map (h.1, ·)
  dialogue : Dialogue m e l r

end Line

namespace Devices

variable {t : Transport W H} {find : Option Connection → W → Option (Mouse (Nat × H)) × W}
  {x : Line (Traced W) (Mouse (Nat × H))}

theorem find_calls (t : Transport W H) (find : Option Connection → W → Option (Mouse (Nat × H)) × W)
    (c : Option Connection) (s : Traced W) : ((tracedMice t find).find c s).2.calls = s.calls := rfl

/-- The calls of a line follow those before it. Only a play with a handle speaks; no other line writes a
frame or plays an effect. -/
theorem Genuine.calls_eq (hx : Genuine (tracedMice t find) x) :
    x.after.calls = x.before.calls ++ x.calls ∧
      ((∃ n m e l r, x.Speaks n m e l r) ∨ x.frames = [] ∧ ∀ n e o, x.errand ≠ .play n e (.ok o)) := by
  have hquiet : ∀ {x : Line (Traced W) (Mouse (Nat × H))} {l}, x.after.calls = x.before.calls ++ l →
      l.filterMap (·.2.written?) = [] →
      x.after.calls = x.before.calls ++ x.calls ∧ x.frames = [] := by
    intro x l h hl
    have hc : x.calls = l := by rw [Line.calls, h, List.drop_left]
    exact ⟨by rw [hc]; exact h, by rw [Line.frames, hc]; exact hl⟩
  cases hx with
  | @nothing c w w' h =>
    have hc := find_calls t find c w
    rw [h] at hc
    obtain ⟨hc, hf⟩ := hquiet (x := ⟨.find c none, none, w, w'⟩) (by rw [List.append_nil]; exact hc) rfl
    exact ⟨hc, .inr ⟨hf, by simp⟩⟩
  | @found c n m w w' h =>
    have hc := find_calls t find c w
    rw [h] at hc
    obtain ⟨hc, hf⟩ := hquiet (x := ⟨.find c (some n), some m, w, w'⟩) (by rw [List.append_nil]; exact hc) rfl
    exact ⟨hc, .inr ⟨hf, by simp⟩⟩
  | @acquire n m m' r w w' h =>
    have hc := m.opened_traced t w
    rw [show m.opened t.traced w = (r, m', w') from h] at hc
    obtain ⟨hc, hf⟩ := hquiet (x := ⟨.acquire n r, some m, w, w'⟩) (by rw [List.append_nil]; exact hc) rfl
    exact ⟨hc, .inr ⟨hf, by simp⟩⟩
  | @close n m m' r w w' h =>
    obtain ⟨l, hc, hl⟩ := m.closed_traced t w
    rw [show m.closed t.traced w = (r, m', w') from h] at hc
    obtain ⟨hc, hf⟩ := hquiet (x := ⟨.close n r, some m, w, w'⟩) hc hl
    exact ⟨hc, .inr ⟨hf, by simp⟩⟩
  | @play n m m' e r w w' h =>
    have hp : m.play t.traced e w = (r, m', w') := h
    rcases m.play_traced_cases t e w with ⟨g, l, hg, hc, hd⟩ | ⟨hw, err, hr, -⟩
    · rw [hp] at hc hd
      have hl : Line.calls ⟨.play n e r, some m, w, w'⟩ = l.map (g.1, ·) := by
        rw [Line.calls, hc, List.drop_left]
      exact ⟨by rw [hl]; exact hc, .inl ⟨n, m, e, l, r, rfl, rfl, ⟨g, hg, hl⟩, hd⟩⟩
    · rw [hp] at hw hr
      have hc : w'.calls = w.calls := congrArg _ hw
      obtain ⟨hc, hf⟩ := hquiet (x := ⟨.play n e r, some m, w, w'⟩) (by rw [List.append_nil]; exact hc) rfl
      exact ⟨hc, .inr ⟨hf, fun _ _ _ he => by cases he; cases hr⟩⟩

theorem Made.frames {s₀ s : Traced W} {l : List (Line (Traced W) (Mouse (Nat × H)))}
    (h : Made (tracedMice t find) s₀ l s) : s.frames = s₀.frames ++ l.flatMap (·.frames) := by
  induction h with
  | start => simp
  | @call l x _ hx ih =>
    rw [Traced.frames, hx.calls_eq.1, List.filterMap_append, List.flatMap_append, ← List.append_assoc, ← ih]
    simp [Traced.frames, Line.frames]

end Devices

namespace Line

variable {x : Line (Traced W) (Mouse (Nat × H))} {n : Nat} {m : Mouse (Nat × H)} {e : Effect}
  {l : List Call} {r : Except DeviceError Outcome}

theorem Speaks.frames (h : x.Speaks n m e l r) : x.frames = l.filterMap Call.written? := by
  obtain ⟨g, -, hc⟩ := h.calls_eq
  rw [Line.frames, hc, List.filterMap_map]
  rfl

/-- Every frame is the command for the effect that the mouse was asked to play. -/
theorem Speaks.frames_eq (h : x.Speaks n m e l r) (hf : x.frames ≠ []) :
    x.frames = [(Frame.trigger m.connection m.index e).bytes] := by
  rw [h.frames] at hf ⊢
  exact h.dialogue.written.resolve_right fun hn => hf hn.1

end Line

section
variable {t : Transport W H} {find : Option Connection → W → Option (Mouse (Nat × H)) × W}
  {x : Line (Traced W) (Mouse (Nat × H))}

theorem Devices.Genuine.speaks (hx : Genuine (tracedMice t find) x) (hf : x.frames ≠ []) :
    ∃ n m e l r, x.Speaks n m e l r :=
  hx.calls_eq.2.resolve_right fun h => hf h.1

theorem Devices.Genuine.speaks_play (hx : Genuine (tracedMice t find) x) {n : Nat} {e : Effect}
    {r : Except DeviceError Outcome} (he : x.errand = .play n e r) (hf : x.frames ≠ []) :
    ∃ m l, x.Speaks n m e l r := by
  obtain ⟨n', m, e', l, r', hs⟩ := hx.speaks hf
  obtain ⟨rfl, rfl, rfl⟩ := Errand.play.inj (he.symm.trans hs.errand_eq)
  exact ⟨m, l, hs⟩

/-- A play that succeeds writes a frame. -/
theorem Devices.Genuine.frames_ne_nil (hx : Genuine (tracedMice t find) x) {n : Nat} {e : Effect}
    {o : Outcome} (he : x.errand = .play n e (.ok o)) : x.frames ≠ [] := by
  rcases hx.calls_eq.2 with ⟨n', m, e', l, r, hs⟩ | ⟨-, hn⟩
  · rw [hs.frames]
    have hr : r = .ok o := by
      have hplay := hs.errand_eq.symm.trans he
      exact (Errand.play.inj hplay).2.2
    rcases hs.dialogue.written with hw | ⟨-, err, herr⟩
    · rw [hw]; simp
    · rw [hr] at herr; cases herr
  · exact absurd he (hn n e o)

/-- Each play writes at most one frame and nothing else writes any. -/
theorem Devices.Genuine.length_frames_le (hx : Genuine (tracedMice t find) x) :
    x.frames.length ≤ x.errand.effect?.toList.length := by
  rcases hx.calls_eq.2 with ⟨n, m, e, l, r, hs⟩ | ⟨hf, -⟩
  · rw [hs.frames, hs.errand_eq]
    rcases hs.dialogue.written with hw | ⟨hw, -⟩ <;> rw [hw] <;> simp [Errand.effect?]
  · rw [hf]; exact Nat.zero_le _

theorem Devices.Genuine.frames_eq_nil (hx : Genuine (tracedMice t find) x) (he : x.errand.effect? = none) :
    x.frames = [] := by
  have hle := hx.length_frames_le
  rw [he] at hle
  exact List.eq_nil_of_length_eq_zero (Nat.le_zero.1 hle)

theorem Devices.length_flatMap_frames_le {ls : List (Line (Traced W) (Mouse (Nat × H)))}
    (h : ∀ x ∈ ls, Genuine (tracedMice t find) x) :
    (ls.flatMap (·.frames)).length ≤ ((ls.map (·.errand)).filterMap Errand.effect?).length := by
  induction ls with
  | nil => exact Nat.zero_le _
  | cons x ls ih =>
    have hx := (h x List.mem_cons_self).length_frames_le
    have hls := ih fun y hy => h y (List.mem_cons_of_mem _ hy)
    rw [List.flatMap_cons, List.map_cons, List.length_append, List.filterMap_cons]
    cases he : x.errand.effect? with
    | none =>
      rw [he] at hx
      dsimp only [Option.toList_none, List.length_nil] at hx ⊢
      omega
    | some e =>
      rw [he] at hx
      dsimp only [Option.toList_some, List.length_cons, List.length_nil] at hx ⊢
      omega

end

namespace Delivery

variable (s : Delivery (Logged (Traced W) (Mouse (Nat × H))) (Numbered (Mouse (Nat × H))))

/-- The frames that the delivery has written. -/
def frames : List Bytes := s.lines.flatMap (·.frames)

/-- The command was written over Bolt to a mouse that was lost in the wait for the answer; then a mouse was
found that was not known before, and the command was written to it. -/
def IsRepeated : Prop :=
  ∃ x₁ x₂ x₃ x₄ x₅ rest n₁ n₂ m₁ m₂ err, s.lines = [x₁, x₂, x₃, x₄, x₅] ++ rest ∧
    x₁.errand = .play n₁ s.effect (.error err) ∧ (∃ r, x₂.errand = .close n₁ r) ∧
    (∃ c, x₃.errand = .find c (some n₂)) ∧ x₄.errand = .acquire n₂ (.ok ()) ∧
    (∃ r, x₅.errand = .play n₂ s.effect r) ∧ n₁ < n₂ ∧
    x₁.device = some m₁ ∧ m₁.connection = .bolt ∧
    (∃ h k call calls, m₁.transport = some h ∧ call.isMute = true ∧
      x₁.calls = [.discard k, .write (m₁.command s.effect).bytes (.ok ()), call].map (h.1, ·) ++ calls) ∧
    x₁.frames = [(Frame.trigger m₁.connection m₁.index s.effect).bytes] ∧
    x₅.device = some m₂ ∧ x₅.frames = [(Frame.trigger m₂.connection m₂.index s.effect).bytes]

variable {s} {t : Transport W H} {find : Option Connection → W → Option (Mouse (Nat × H)) × W}
  {c : Option Connection}

/-- Two frames take two plays, each of which wrote one. -/
theorem Recorded.isRepeated (h : s.Recorded c)
    (hx : ∀ x ∈ s.lines, Devices.Genuine (.tracedMice t find) x) (hf : 2 ≤ s.frames.length) :
    s.IsRepeated := by
  have hle := Devices.length_flatMap_frames_le hx
  obtain ⟨n₁, n₂, err, r, r', l, hlt, herr, hl⟩ := h.second_play (Nat.le_trans hf hle)
  obtain ⟨l₁, rest, hlines, h₁, hrest⟩ := List.map_eq_append_iff.1 herr
  obtain ⟨x₁, l₂, rfl, he₁, h₂⟩ := List.map_eq_cons_iff.1 h₁
  obtain ⟨x₂, l₃, rfl, he₂, h₃⟩ := List.map_eq_cons_iff.1 h₂
  obtain ⟨x₃, l₄, rfl, he₃, h₄⟩ := List.map_eq_cons_iff.1 h₃
  obtain ⟨x₄, l₅, rfl, he₄, h₅⟩ := List.map_eq_cons_iff.1 h₄
  obtain ⟨x₅, l₆, rfl, he₅, h₆⟩ := List.map_eq_cons_iff.1 h₅
  obtain rfl := List.map_eq_nil_iff.1 h₆
  rw [hlines] at hx
  -- only the two plays can have written anything
  have hframes : s.frames = x₁.frames ++ x₅.frames := by
    have hnil : rest.flatMap (·.frames) = [] := by
      have := Devices.length_flatMap_frames_le fun x hm => hx x (List.mem_append_right _ hm)
      rw [hrest, hl] at this
      exact List.eq_nil_of_length_eq_zero (Nat.le_zero.1 this)
    rw [frames, hlines, List.flatMap_append, hnil]
    simp [(hx x₂ (by simp)).frames_eq_nil (by rw [he₂]; rfl),
      (hx x₃ (by simp)).frames_eq_nil (by rw [he₃]; rfl),
      (hx x₄ (by simp)).frames_eq_nil (by rw [he₄]; rfl)]
  have h₁ := hx x₁ (by simp)
  have h₅ := hx x₅ (by simp)
  have hf₁ : x₁.frames ≠ [] ∧ x₅.frames ≠ [] := by
    have hle₁ := h₁.length_frames_le
    have hle₅ := h₅.length_frames_le
    rw [he₁] at hle₁
    rw [he₅] at hle₅
    rw [hframes, List.length_append] at hf
    dsimp only [Errand.effect?, Option.toList_some, List.length_cons, List.length_nil] at hle₁ hle₅
    exact ⟨List.ne_nil_of_length_pos (by omega), List.ne_nil_of_length_pos (by omega)⟩
  obtain ⟨m₁, calls₁, hs₁⟩ := h₁.speaks_play he₁ hf₁.1
  obtain ⟨m₂, calls₂, hs₂⟩ := h₅.speaks_play he₅ hf₁.2
  obtain ⟨g, hg, hcalls⟩ := hs₁.calls_eq
  obtain ⟨hbolt, k, call, calls, hl₁, hmute⟩ := hs₁.dialogue.mute (by rw [← hs₁.frames]; exact hf₁.1)
  refine ⟨x₁, x₂, x₃, x₄, x₅, rest, n₁, n₂, m₁, m₂, err, hlines, he₁, ⟨r, he₂⟩, ⟨c, he₃⟩, he₄, ⟨r', he₅⟩,
    hlt, hs₁.device_eq, hbolt, ⟨g, k, call, calls.map (g.1, ·), hg, hmute, ?_⟩, hs₁.frames_eq hf₁.1,
    hs₂.device_eq, hs₂.frames_eq hf₁.2⟩
  rw [hcalls, hl₁]
  rfl

end Delivery

namespace Course

/-- After any run over mice, the frames that were written are those of the deliveries one after the other,
whose effects are the first of those that were accepted. Each frame is the command of the mouse that wrote
it for the effect of its delivery. A delivery writes none, one or two, and two only if the first mouse was
lost in the wait for an answer over Bolt and another one was found; one that counts as delivered has
written a frame. -/
theorem run_frames (t : Transport W H) (find : Option Connection → W → Option (Mouse (Nat × H)) × W)
    {capacity : Nat} {preferred : Option Connection} {device : Option (Mouse (Nat × H))}
    {d : Depot (Numbered (Mouse (Nat × H)))}
    (hd : Depot.ofCapacity? capacity preferred (device.map (Numbered.mk 0)) = some d) (w : W) (n : Nat)
    (acts : List Act) :
    let c := (start d (Logged.start (Traced.start w n))).run (Devices.tracedMice t find).logged acts
    c.started <+: c.accepted ∧
      c.world.world.frames = c.deliveries.flatMap (·.frames) ∧
      c.depot.tally.delivered = c.deliveries.countP (·.isDelivered) ∧
      ∀ s ∈ c.deliveries,
        (∀ x ∈ s.lines, x.frames ≠ [] → ∃ k m l r, x.Speaks k m s.effect l r ∧
          x.frames = [(Frame.trigger m.connection m.index s.effect).bytes]) ∧
        s.frames.length ≤ 2 ∧ (s.frames.length = 2 → s.IsRepeated) ∧
        (s.isDelivered = true → s.frames ≠ []) := by
  intro c
  obtain ⟨hl, hpend, htally⟩ := Ledger.of_ofCapacity? hd
  have hpace := run_pace (Devices.tracedMice t find).logged (Logged.start (Traced.start w n)) hpend acts
  have hsound := Courier.standing_new preferred device (Traced.start w n)
  obtain ⟨hrec, rest, hlines, hclose⟩ := hpace.recorded hsound
  have hmade : (Devices.tracedMice t find).Made (Traced.start w n) c.world.lines c.world.world :=
    run_keeps (Devices.logged_keeps_made _ _) (c := start d (Logged.start (Traced.start w n))) .start acts
  have hgenuine := hmade.genuine
  rw [hlines] at hgenuine
  refine ⟨(run_orderly _ hl _ acts).started_isPrefix, ?_, (run_tallied _ _ hpend htally acts).delivered,
    fun s hs => ?_⟩
  · -- the closing at the end writes nothing
    have hnil : rest.flatMap (·.frames) = [] := by
      refine List.flatMap_eq_nil_iff.2 fun x hx => ?_
      obtain ⟨k, r, hx'⟩ := hclose x hx
      exact (hgenuine x (List.mem_append_right _ hx)).frames_eq_nil (by rw [hx']; rfl)
    rw [hmade.frames, hlines, List.flatMap_append, hnil, List.append_nil]
    exact List.flatMap_assoc
  · have hx : ∀ x ∈ s.lines, (Devices.tracedMice t find).Genuine x := fun x hx =>
      hgenuine x (List.mem_append_left _ (List.mem_append_right _ (List.mem_flatMap.2 ⟨s, hs, hx⟩)))
    refine ⟨fun x hm hf => ?_, ?_, fun hf => (hrec s hs).isRepeated hx (Nat.le_of_eq hf.symm), fun hdel => ?_⟩
    · obtain ⟨k, m, e, l, r, hsp⟩ := (hx x hm).speaks hf
      obtain rfl := (hrec s hs).effect_eq (List.mem_map.2 ⟨x, hm, hsp.errand_eq⟩)
      exact ⟨k, m, l, r, hsp, hsp.frames_eq hf⟩
    · exact Nat.le_trans (Devices.length_flatMap_frames_le hx) (hrec s hs).length_plays_le
    · obtain ⟨k, o, hplay⟩ := (hrec s hs).play_mem hdel
      obtain ⟨x, hm, he⟩ := List.mem_map.1 hplay
      intro hnil
      exact (hx x hm).frames_ne_nil he (List.flatMap_eq_nil_iff.1 hnil x hm)

/-- The receiver does not answer, and the effect is written once more to a mouse that is found then. -/
theorem run_frames_repeated :
    let t : Transport Unit Unit := ⟨fun _ _ w => (.ok (), w), fun _ w => (0, w), fun _ _ w => (.ok (), w),
      fun _ _ _ w => (.error (.other "timeout"), w), fun _ w => (.ok (), w)⟩
    let find := fun (_ : Option Connection) w => (some (Mouse.new .bluetooth "/dev/hidraw1" none 100), w)
    let m := Mouse.holding .bolt "/dev/hidraw0" (some 2) 100 (0, ())
    ∃ d, Depot.ofCapacity? 1 none (some ⟨0, m⟩) = some d ∧
      let c := (start d (Logged.start (Traced.start () 1))).run (Devices.tracedMice t find).logged
        [.request 3, .start, .look, .take, .proceed, .proceed, .proceed]
      c.world.world.frames =
        [(Frame.trigger .bolt (some 2) ⟨3⟩).bytes, (Frame.trigger .bluetooth none ⟨3⟩).bytes] ∧
      c.world.world.frames = c.deliveries.flatMap (·.frames) ∧
      ∀ s ∈ c.deliveries, s.frames.length = 2 → s.IsRepeated := by
  intro t find m
  have hd : Depot.ofCapacity? 1 none (Option.map (Numbered.mk 0) (some m)) =
    some ⟨⟨1, [], false, 0, 0⟩, ⟨0, 0⟩, .pending ⟨none, some ⟨0, m⟩, 0⟩, false, false, 0⟩ := rfl
  obtain ⟨-, hframes, -, hs⟩ := run_frames t find hd () 1
    [.request 3, .start, .look, .take, .proceed, .proceed, .proceed]
  exact ⟨_, hd, rfl, hframes, fun s hm => (hs s hm).2.2.1⟩

end Course

end Haptics
