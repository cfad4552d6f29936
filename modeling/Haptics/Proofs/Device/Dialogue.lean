import Haptics.Device.Mouse

/-!
# The calls of one play

`Dialogue` lists what a mouse can say over its handle to play one effect, and what comes of it: over
Bluetooth a single write, over Bolt a write and the read of its answer. `Mouse.play_traced` says that the
record of the calls grows by such a dialogue, or by nothing if there is no handle.
-/

namespace Haptics

variable {W H : Type}

namespace Call

/-- Whether a read failed or gave less than the header of an answer. -/
def isMute : Call → Bool
  | read _ _ (.ok answer) => answer.length < 4
  | read _ _ (.error _) => true
  | _ => false

end Call

namespace Traced

/-- The reports that were written, in order. -/
def frames (s : Traced W) : List Bytes := s.calls.filterMap (·.2.written?)

end Traced

namespace Transport

variable (t : Transport W H) (h : Nat × H) (s : Traced W)

theorem traced_discard : t.traced.discard h s = ((t.discard h.2 s.world).1,
    s.record (t.discard h.2 s.world).2 h.1 (.discard (t.discard h.2 s.world).1)) := rfl

theorem traced_write (b : Bytes) : t.traced.write h b s = ((t.write h.2 b s.world).1,
    s.record (t.write h.2 b s.world).2 h.1 (.write b (t.write h.2 b s.world).1)) := rfl

theorem traced_read (n : Nat) (ms : UInt64) : t.traced.read h n ms s = ((t.read h.2 n ms s.world).1,
    s.record (t.read h.2 n ms s.world).2 h.1 (.read n ms (t.read h.2 n ms s.world).1)) := rfl

theorem traced_close : t.traced.close h s = ((t.close h.2 s.world).1,
    s.record (t.close h.2 s.world).2 h.1 (.close (t.close h.2 s.world).1)) := rfl

end Transport

/-- The calls on the handle of `m` when it plays `e`, and the result. -/
inductive Dialogue (m : Mouse H) (e : Effect) : List Call → Except DeviceError Outcome → Prop where
  | posted (hc : m.connection = .bluetooth) :
    Dialogue m e [.write (m.command e).bytes (.ok ())] (.ok .written)
  | postFailed {err} (hc : m.connection = .bluetooth) (hv : err.hasVanished = false) :
    Dialogue m e [.write (m.command e).bytes (.error err)] (.error (.transport err))
  | postLost {err r} (hc : m.connection = .bluetooth) (hv : err.hasVanished = true) :
    Dialogue m e [.write (m.command e).bytes (.error err), .close r] (.error (.disconnected err))
  | unsent {n err r} (hc : m.connection = .bolt) :
    Dialogue m e [.discard n, .write (m.command e).bytes (.error err), .close r]
      (.error (.disconnected err))
  | unanswered {n err r} (hc : m.connection = .bolt) :
    Dialogue m e
      [.discard n, .write (m.command e).bytes (.ok ()), .read Mouse.answerSize m.timeoutMs (.error err),
        .close r]
      (.error (.disconnected err))
  | answered {n answer} (hc : m.connection = .bolt) :
    Dialogue m e
      [.discard n, .write (m.command e).bytes (.ok ()), .read Mouse.answerSize m.timeoutMs (.ok answer)]
      (Mouse.correlate (Frame.targetIndex m.index) answer)

namespace Mouse

theorem correlate_error {index : UInt8} {answer : Bytes} {err : DeviceError}
    (h : correlate index answer = .error err) : answer.length < 4 ∧ err = .malformed answer.length := by
  unfold correlate Reply.ofBytes at h
  match answer, h with
  | [], h | [_], h | [_, _], h | [_, _, _], h => exact ⟨by simp, (Except.error.inj h).symm⟩
  | _ :: _ :: _ :: _ :: _, h => cases h

theorem isDisconnect_correlate (index : UInt8) (answer : Bytes) :
    isDisconnect (correlate index answer) = false := by
  cases h : correlate index answer with
  | ok => rfl
  | error err => rw [(correlate_error h).2]; rfl

section
variable {t : Transport W H} {m : Mouse H} {h : H} {e : Effect} {w w' : W}
  {r : Except DeviceError Outcome}

theorem play_of_disconnect (hs : m.state = .opened) (ht : m.transport = some h)
    (hr : transmit t m h e w = (r, w')) (hd : isDisconnect r = true) :
    m.play t e w = (r, { m with transport := none, state := .terminal }, (t.close h w').2) := by
  simp only [play, hs, ht, hr, hd, ↓reduceIte]

theorem play_of_not_disconnect (hs : m.state = .opened) (ht : m.transport = some h)
    (hr : transmit t m h e w = (r, w')) (hd : isDisconnect r = false) : m.play t e w = (r, m, w') := by
  simp only [play, hs, ht, hr, hd, Bool.false_eq_true, ↓reduceIte]

end

variable (t : Transport W H) (m : Mouse (Nat × H)) (e : Effect) (s : Traced W)

/-- A mouse with a handle plays by a dialogue over it. -/
theorem play_traced {h : Nat × H} (hs : m.state = .opened) (ht : m.transport = some h) :
    ∃ l, (m.play t.traced e s).2.2.calls = s.calls ++ l.map (h.1, ·) ∧
      Dialogue m e l (m.play t.traced e s).1 := by
  cases hc : m.connection with
  | bluetooth =>
    have hr : transmit t.traced m h e s = post t.traced h (m.command e).bytes s := by
      simp only [transmit, hc]
    rcases hw : t.write h.2 (m.command e).bytes s.world with ⟨err | _, w⟩
    · simp only [post, t.traced_write, hw] at hr
      cases hv : err.hasVanished <;> rw [hv] at hr
      · rw [play_of_not_disconnect hs ht hr rfl]
        exact ⟨_, rfl, .postFailed hc hv⟩
      · rw [play_of_disconnect hs ht hr rfl]
        exact ⟨[.write _ _, .close (t.close h.2 w).1], by simp [t.traced_close, Traced.record],
          .postLost hc hv⟩
    · simp only [post, t.traced_write, hw] at hr
      rw [play_of_not_disconnect hs ht hr rfl]
      exact ⟨_, rfl, .posted hc⟩
  | bolt =>
    have hr : transmit t.traced m h e s =
        exchange t.traced h (m.command e).bytes (Frame.targetIndex m.index) m.timeoutMs s := by
      simp only [transmit, hc]
    rcases hd : t.discard h.2 s.world with ⟨n, w₁⟩
    rcases hw : t.write h.2 (m.command e).bytes w₁ with ⟨err | _, w₂⟩
    · simp only [exchange, t.traced_discard, t.traced_write, Traced.record, hd, hw] at hr
      rw [play_of_disconnect hs ht hr rfl]
      exact ⟨[.discard n, .write _ _, .close (t.close h.2 w₂).1],
        by simp [t.traced_close, Traced.record], .unsent hc⟩
    · rcases ha : t.read h.2 answerSize m.timeoutMs w₂ with ⟨err | answer, w₃⟩
      · simp only [exchange, t.traced_discard, t.traced_write, t.traced_read, Traced.record, hd, hw, ha] at hr
        rw [play_of_disconnect hs ht hr rfl]
        exact ⟨[.discard n, .write _ _, .read _ _ _, .close (t.close h.2 w₃).1],
          by simp [t.traced_close, Traced.record], .unanswered hc⟩
      · simp only [exchange, t.traced_discard, t.traced_write, t.traced_read, Traced.record, hd, hw, ha] at hr
        rw [play_of_not_disconnect hs ht hr (isDisconnect_correlate ..)]
        exact ⟨[.discard n, .write _ _, .read _ _ _], by simp, .answered hc⟩

/-- A mouse without a handle says nothing and cannot be used. -/
theorem play_traced_unheld (h : m.state ≠ .opened ∨ m.transport = none) :
    (m.play t.traced e s).2.2 = s ∧
      ∃ err, (m.play t.traced e s).1 = .error err ∧ err.losesDevice = true := by
  unfold play
  cases hs : m.state with
  | unopened => exact ⟨rfl, _, rfl, rfl⟩
  | terminal => exact ⟨rfl, _, rfl, rfl⟩
  | opened =>
    rw [h.resolve_left (not_not_intro hs)]
    exact ⟨rfl, _, rfl, rfl⟩

theorem play_traced_cases :
    (∃ h l, m.transport = some h ∧ (m.play t.traced e s).2.2.calls = s.calls ++ l.map (h.1, ·) ∧
      Dialogue m e l (m.play t.traced e s).1) ∨
    (m.play t.traced e s).2.2 = s ∧ ∃ err, (m.play t.traced e s).1 = .error err ∧ err.losesDevice = true := by
  by_cases hs : m.state = .opened
  · rcases ht : m.transport with _ | h
    · exact .inr (m.play_traced_unheld t e s (.inr ht))
    · obtain ⟨l, hl⟩ := m.play_traced t e s hs ht
      exact .inl ⟨h, l, rfl, hl⟩
  · exact .inr (m.play_traced_unheld t e s (.inl hs))

/-- Opening a mouse writes nothing. -/
theorem opened_traced : (m.opened t.traced s).2.2.calls = s.calls := by
  unfold opened
  cases m.state with
  | opened | terminal => rfl
  | unopened =>
    simp only [Transport.traced]
    rcases t.acquire m.connection m.path s.world with ⟨_ | _, w⟩ <;> rfl

/-- Closing a mouse writes nothing. -/
theorem closed_traced : ∃ l, (m.closed t.traced s).2.2.calls = s.calls ++ l ∧
    l.filterMap (·.2.written?) = [] := by
  unfold closed
  rcases m.transport with _ | h
  · exact ⟨[], (List.append_nil _).symm, rfl⟩
  · refine ⟨[(h.1, .close (t.close h.2 s.world).1)], ?_, rfl⟩
    simp only [t.traced_close]
    rcases (t.close h.2 s.world).1 with _ | _ <;> rfl

end Mouse

namespace Dialogue

variable {m : Mouse H} {e : Effect} {l : List Call} {r : Except DeviceError Outcome}

/-- A dialogue writes the command once, unless the write fails. -/
theorem written (h : Dialogue m e l r) : l.filterMap Call.written? = [(m.command e).bytes] ∨
    l.filterMap Call.written? = [] ∧ ∃ err, r = .error err := by
  cases h with
  | posted | unanswered | answered => exact .inl rfl
  | postFailed | postLost | unsent => exact .inr ⟨rfl, _, rfl⟩

/-- A play that fails after its command was written has waited for an answer over Bolt. -/
theorem mute {err : DeviceError} (h : Dialogue m e l (.error err)) (hw : l.filterMap Call.written? ≠ []) :
    m.connection = .bolt ∧
      ∃ n c l', l = .discard n :: .write (m.command e).bytes (.ok ()) :: c :: l' ∧ c.isMute = true := by
  generalize hr : Except.error err = r at h
  cases h with
  | posted => cases hr
  | postFailed | postLost | unsent => exact absurd rfl hw
  | unanswered hc => exact ⟨hc, _, _, _, rfl, rfl⟩
  | answered hc =>
    have hshort := (Mouse.correlate_error hr.symm).1
    exact ⟨hc, _, _, _, rfl, decide_eq_true hshort⟩

end Dialogue

end Haptics
