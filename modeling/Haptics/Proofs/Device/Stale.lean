import Haptics.Proofs.Device.Dialogue
import Haptics.Proofs.System.Deadline
import Haptics.Proofs.System.Stream
import Haptics.Proofs.Wire.Reply

/-!
# Stale reports

A play over Bolt drops what waits to be read before it writes its command, so nothing that waited before can
come into its result. Two plays that differ only in what waits `Agree` (`Mouse.play_undisturbed`), and a play on
a stream that gives back what is written to it is answered by its own command.
-/

namespace Haptics

variable {W H : Type}

namespace Mouse

/-- Two plays have the same result, leave the same mouse and the same world, and wrote the same frames. -/
structure Agree (a b : Except DeviceError Outcome × Mouse (Nat × H) × Traced W) : Prop where
  result : a.1 = b.1
  mouse : a.2.1 = b.2.1
  world : a.2.2.world = b.2.2.world
  frames : a.2.2.frames = b.2.2.frames

section
variable {t : Transport W H} {m : Mouse (Nat × H)} {g : Nat × H} {s : Traced W} {w w₀ w₁ w₂ : W} {n : Nat}
  {f : Bytes} {index : UInt8} {ms : UInt64}

theorem exchange_unsent {err : IoError} (hd : t.discard g.2 w = (n, w₀))
    (hw : t.write g.2 f w₀ = (.error err, w₁)) : exchange t.traced g f index ms { s with world := w } =
      (.error (.disconnected err),
        ⟨w₁, s.acquired, s.calls ++ [(g.1, .discard n), (g.1, .write f (.error err))]⟩) := by
  simp [exchange, t.traced_discard, t.traced_write, Traced.record, hd, hw]

theorem exchange_unanswered {err : IoError} (hd : t.discard g.2 w = (n, w₀))
    (hw : t.write g.2 f w₀ = (.ok (), w₁)) (ha : t.read g.2 answerSize ms w₁ = (.error err, w₂)) :
    exchange t.traced g f index ms { s with world := w } =
      (.error (.disconnected err), ⟨w₂, s.acquired, s.calls ++
        [(g.1, .discard n), (g.1, .write f (.ok ())), (g.1, .read answerSize ms (.error err))]⟩) := by
  simp [exchange, t.traced_discard, t.traced_write, t.traced_read, Traced.record, hd, hw, ha]

theorem exchange_answered {answer : Bytes} (hd : t.discard g.2 w = (n, w₀))
    (hw : t.write g.2 f w₀ = (.ok (), w₁)) (ha : t.read g.2 answerSize ms w₁ = (.ok answer, w₂)) :
    exchange t.traced g f index ms { s with world := w } =
      (correlate index answer, ⟨w₂, s.acquired, s.calls ++
        [(g.1, .discard n), (g.1, .write f (.ok ())), (g.1, .read answerSize ms (.ok answer))]⟩) := by
  simp [exchange, t.traced_discard, t.traced_write, t.traced_read, Traced.record, hd, hw, ha]

theorem transmit_of_bolt (hc : m.connection = .bolt) (e : Effect) (s : Traced W) : transmit t.traced m g e s =
    exchange t.traced g (m.command e).bytes (Frame.targetIndex m.index) m.timeoutMs s := by
  simp only [transmit, hc]

/-- The world that dropping the reports leads to decides on all the rest of a play. -/
theorem play_drained (hs : m.state = .opened) (hc : m.connection = .bolt) (hg : m.transport = some g)
    (e : Effect) (w₀ : W) : ∃ r m' w' l, ∀ (s : Traced W) (w : W) (n : Nat), t.discard g.2 w = (n, w₀) →
      m.play t.traced e { s with world := w } =
        (r, m', ⟨w', s.acquired, s.calls ++ (g.1, .discard n) :: l⟩) := by
  rcases hw : t.write g.2 (m.command e).bytes w₀ with ⟨err | _, w₁⟩
  · refine ⟨.error (.disconnected err), { m with transport := none, state := .terminal }, (t.close g.2 w₁).2,
      [(g.1, .write (m.command e).bytes (.error err)), (g.1, .close (t.close g.2 w₁).1)], fun s w n hd => ?_⟩
    rw [play_of_disconnect hs hg ((transmit_of_bolt hc e _).trans (exchange_unsent hd hw)) rfl]
    simp [t.traced_close, Traced.record]
  · rcases ha : t.read g.2 answerSize m.timeoutMs w₁ with ⟨err | answer, w₂⟩
    · refine ⟨.error (.disconnected err), { m with transport := none, state := .terminal },
        (t.close g.2 w₂).2, [(g.1, .write (m.command e).bytes (.ok ())),
          (g.1, .read answerSize m.timeoutMs (.error err)), (g.1, .close (t.close g.2 w₂).1)],
        fun s w n hd => ?_⟩
      rw [play_of_disconnect hs hg ((transmit_of_bolt hc e _).trans (exchange_unanswered hd hw ha)) rfl]
      simp [t.traced_close, Traced.record]
    · refine ⟨correlate (Frame.targetIndex m.index) answer, m, w₂,
        [(g.1, .write (m.command e).bytes (.ok ())), (g.1, .read answerSize m.timeoutMs (.ok answer))],
        fun s w n hd => ?_⟩
      rw [play_of_not_disconnect hs hg ((transmit_of_bolt hc e _).trans (exchange_answered hd hw ha))
        (isDisconnect_correlate ..)]

theorem play_agree {w' : W} (hs : m.state = .opened) (hc : m.connection = .bolt) (hg : m.transport = some g)
    (e : Effect) (hw : (t.discard g.2 w).2 = w₀) (hw' : (t.discard g.2 w').2 = w₀) (s : Traced W) :
    Agree (m.play t.traced e { s with world := w }) (m.play t.traced e { s with world := w' }) := by
  obtain ⟨r, m', w₁, l, h⟩ := play_drained (t := t) hs hc hg e w₀
  rw [h s w _ (Prod.ext rfl hw), h s w' _ (Prod.ext rfl hw')]
  exact ⟨rfl, rfl, rfl, by simp [Traced.frames, Call.written?]⟩

end

/-! ### A stream that gives back what is written to it -/

theorem correlate_command {m : Mouse H} (hc : m.connection = .bolt) (e : Effect) :
    correlate (Frame.targetIndex m.index) (m.command e).bytes = .ok (.answered (m.command e).reply) := by
  have hr := (m.command e).ofBytes_bytes
  have hi : (m.command e).reply.deviceIndex = Frame.targetIndex m.index := by
    simp only [command, hc]
    rfl
  simp only [correlate, hr, hi, ↓reduceIte]

theorem length_command {m : Mouse H} (hc : m.connection = .bolt) (e : Effect) :
    (m.command e).bytes.length = 7 := by
  rw [Frame.length_bytes]
  simp only [command, hc]
  rfl

open Host in
theorem play_echo {m : Mouse (Nat × Handle)} {k : Nat} {i : Handle} {h : Host} {o : Opening} {held : Bool}
    {q : Bytes} (hs : m.state = .opened) (hc : m.connection = .bolt) (hg : m.transport = some (k, i))
    (p : h.Pipes i o held q) (hnow : h.nowMs < (1 <<< 62) * 1000) (e : Effect) (s : Traced Host) (q' : Bytes) :
    m.play Host.transport.traced e { s with world := h.filled i q' } =
      (.ok (.answered (m.command e).reply), m, ⟨h.filled i [], s.acquired, s.calls ++
        [(k, .discard ((q'.length + 19) / 20)), (k, .write (m.command e).bytes (.ok ())),
          (k, .read answerSize m.timeoutMs (.ok (m.command e).bytes))]⟩) := by
  have hlen := length_command hc e
  have hne : (m.command e).bytes ≠ [] := fun hn => by rw [hn] at hlen; cases hlen
  have hdeadline := Clock.deadline?_of_lt hnow m.timeoutMs
  have hd := p.discard q'
  have hw := p.write [] hne
  have ha := p.read hne answerSize hdeadline
  -- the buffer takes the whole command, so nothing of it stays behind
  rw [List.take_of_length_le (by rw [hlen]; decide), List.drop_of_length_le (by rw [hlen]; decide)] at ha
  rw [play_of_not_disconnect hs hg ((transmit_of_bolt hc e _).trans (exchange_answered hd hw ha))
    (isDisconnect_correlate ..), correlate_command hc]

open Host in
/-- Over Bolt, what waited before a play does not matter. Two plays that begin with different reports waiting,
where dropping what waits removes all of it, have the same result, leave the same mouse and the same world, and
wrote the same frames. So do two plays on a node whose stream has different bytes waiting. If that stream gives
back what is written to it, each is answered by the very frame that it wrote and leaves the stream empty, as long
as the clock reads less than 2^62 seconds, so that every wait has a deadline. -/
theorem play_undisturbed :
    (∀ {W H : Type} (t : Transport W H) (m : Mouse (Nat × H)) (g : Nat × H) (e : Effect)
        (waiting : List Bytes → W) (s : Traced W),
      m.state = .opened → m.connection = .bolt → m.transport = some g →
      (∀ q, (t.discard g.2 (waiting q)).2 = waiting []) →
      ∀ q q', Agree (m.play t.traced e { s with world := waiting q })
        (m.play t.traced e { s with world := waiting q' })) ∧
    ∀ (m : Mouse (Nat × Handle)) (k : Nat) (i : Handle) (e : Effect) (h : Host) (o : Opening) (held : Bool)
        (q₀ : Bytes) (s : Traced Host),
      m.state = .opened → m.connection = .bolt → m.transport = some (k, i) → h.Pipes i o held q₀ →
      (∀ q q', Agree (m.play Host.transport.traced e { s with world := h.filled i q })
        (m.play Host.transport.traced e { s with world := h.filled i q' })) ∧
      (h.nowMs < (1 <<< 62) * 1000 → ∀ q, ∃ reply,
        let f := (Frame.trigger .bolt m.index e).bytes
        let after := m.play Host.transport.traced e { s with world := h.filled i q }
        after.1 = .ok (.answered reply) ∧ Reply.ofBytes f = .ok reply ∧
          after.2.2.frames = s.frames ++ [f] ∧ after.2.2.world = h.filled i []) := by
  constructor
  · intro W H t m g e waiting s hs hc hg hd q q'
    exact play_agree hs hc hg e (hd q) (hd q') s
  intro m k i e h o held q₀ s hs hc hg p
  constructor
  · intro q q'
    have hd : ∀ q, (Host.transport.discard i (h.filled i q)).2 = h.filled i [] := by
      intro q
      exact congrArg Prod.snd (p.discard q)
    exact play_agree hs hc hg e (hd q) (hd q') s
  · intro hnow q
    have hcommand : (m.command e).bytes = (Frame.trigger .bolt m.index e).bytes := by
      simp only [command, hc]
    have hecho := play_echo hs hc hg p hnow e s q
    refine ⟨(m.command e).reply, ?_, ?_, ?_, ?_⟩
    · rw [hecho]
    · rw [← hcommand]
      exact (m.command e).ofBytes_bytes
    · rw [hecho, ← hcommand]
      simp [Traced.frames, Call.written?]
    · rw [hecho]

open Host in
/-- A late answer does not hide that no other comes, and on a pipe 45 stray bytes do not get in the way. -/
theorem play_undisturbed_late :
    let t : Transport (List Bytes) Unit := ⟨fun _ _ w => (.ok (), w), fun _ w => (w.length, []),
      fun _ _ w => (.ok (), w), fun _ _ _ w => (w.head?.elim (.error noAnswer) .ok, w.tail),
      fun _ w => (.ok (), w)⟩
    let m : Mouse (Nat × Unit) := .holding .bolt "/dev/hidraw0" (some 2) 100 (0, ())
    let late : Bytes := [0x10, 2, 0x0B, 0x4E, 1, 0, 0]
    let h : Host := ⟨⟨[.new (.pipe true [])]⟩, [⟨0, true, 0, true⟩], "/", 0⟩
    let m' : Mouse (Nat × Handle) := .holding .bolt "/dev/hidraw0" none 100 (0, 0)
    let after := m'.play Host.transport.traced ⟨7⟩ (Traced.start (h.filled 0 (List.replicate 45 0xFF)) 1)
    Agree (m.play t.traced ⟨1⟩ (Traced.start [late] 1)) (m.play t.traced ⟨1⟩ (Traced.start [] 1)) ∧
      (m.play t.traced ⟨1⟩ (Traced.start [late] 1)).1 = .error (.disconnected noAnswer) ∧
      h.Pipes 0 ⟨0, true, 0, true⟩ true [] ∧
      (∃ reply, after.1 = .ok (.answered reply) ∧
        Reply.ofBytes (Frame.trigger .bolt none ⟨7⟩).bytes = .ok reply) ∧
      after.2.2.frames = [(Frame.trigger .bolt none ⟨7⟩).bytes] ∧ after.2.2.world = h.filled 0 [] := by
  intro t m late h m' after
  have p : h.Pipes 0 ⟨0, true, 0, true⟩ true [] := ⟨rfl, rfl, rfl, rfl⟩
  have ha := play_undisturbed.1 t m (0, ()) ⟨1⟩ id (Traced.start [] 1) rfl rfl rfl (fun _ => rfl) [late] []
  have hb := play_undisturbed.2 m' 0 0 ⟨7⟩ h ⟨0, true, 0, true⟩ true [] (Traced.start h 1) rfl rfl rfl p
  obtain ⟨reply, hr, hf, hframes, hw⟩ := hb.2 (by decide) (List.replicate 45 0xFF)
  exact ⟨ha, rfl, p, ⟨reply, hr, hf⟩, hframes, hw⟩

end Mouse

end Haptics
