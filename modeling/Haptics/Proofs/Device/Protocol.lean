import Haptics.Proofs.Device.Life
import Haptics.Proofs.Wire.Reply

/-!
# The protocol of a mouse

`Block` lists the calls that one play makes on the handle, and `BoltOutcome` and `BluetoothOutcome` say what
comes of them. However a mouse is used, the calls on each of its handles are the blocks of its plays, one
after the other, and at the end perhaps the release of the handle (`Mouse.uses_protocol`).
-/

namespace Haptics

variable {W H : Type}

/-- The calls of one play of an effect. Over Bolt the reports that wait are dropped and the command is
written; if that succeeds, its answer is read. Over Bluetooth the command is written and nothing else. -/
inductive Block (index : Option UInt8) (timeoutMs : UInt64) (e : Effect) : Connection → List Call → Prop where
  | unsent (n : Nat) (err : IoError) :
    Block index timeoutMs e .bolt [.discard n, .write (Frame.trigger .bolt index e).bytes (.error err)]
  | sent (n : Nat) (r : Except IoError Bytes) :
    Block index timeoutMs e .bolt
      [.discard n, .write (Frame.trigger .bolt index e).bytes (.ok ()), .read 20 timeoutMs r]
  | posted (r : Except IoError Unit) :
    Block index timeoutMs e .bluetooth [.write (Frame.trigger .bluetooth index e).bytes r]

/-- The result of a play over Bolt with the command `f`, by what its calls gave. -/
structure BoltOutcome (f : Bytes) (timeoutMs : UInt64) (b : List Call) (r : Except DeviceError Outcome) :
    Prop where
  answered : ∀ reply, r = .ok (.answered reply) ↔ ∃ n answer,
    b = [.discard n, .write f (.ok ()), .read 20 timeoutMs (.ok answer)] ∧
      4 ≤ answer.length ∧ answer[1]? = f[1]? ∧ answer = reply.bytes
  uncorrelated : r = .ok .uncorrelated ↔ ∃ n answer,
    b = [.discard n, .write f (.ok ()), .read 20 timeoutMs (.ok answer)] ∧
      4 ≤ answer.length ∧ answer[1]? ≠ f[1]?
  malformed : ∀ len, r = .error (.malformed len) ↔ ∃ n answer,
    b = [.discard n, .write f (.ok ()), .read 20 timeoutMs (.ok answer)] ∧
      answer.length < 4 ∧ len = answer.length
  disconnected : ∀ err, r = .error (.disconnected err) ↔ ∃ n,
    b = [.discard n, .write f (.error err)] ∨
      b = [.discard n, .write f (.ok ()), .read 20 timeoutMs (.error err)]

/-- The result of a play over Bluetooth with the command `f`, by what its only call gave. -/
structure BluetoothOutcome (f : Bytes) (b : List Call) (r : Except DeviceError Outcome) : Prop where
  written : r = .ok .written ↔ b = [.write f (.ok ())]
  disconnected : ∀ err, r = .error (.disconnected err) ↔ b = [.write f (.error err)] ∧ err.hasVanished = true
  transport : ∀ err, r = .error (.transport err) ↔ b = [.write f (.error err)] ∧ err.hasVanished = false

namespace Mouse

variable {index : UInt8} {answer : Bytes}

/-! ### What an answer means -/

theorem correlate_cases (index : UInt8) (answer : Bytes) :
    (answer.length < 4 ∧ correlate index answer = .error (.malformed answer.length)) ∨
    ∃ reply : Reply, answer = reply.bytes ∧
      correlate index answer = .ok (if reply.deviceIndex = index then .answered reply else .uncorrelated) := by
  rcases h : Reply.ofBytes answer with e | reply
  · obtain ⟨hl, rfl⟩ := Reply.ofBytes_eq_error_iff.1 h
    exact .inl ⟨hl, by simp only [correlate, h, DeviceError.ofWire]⟩
  · exact .inr ⟨reply, Reply.ofBytes_eq_ok_iff.1 h, by simp only [correlate, h]⟩

theorem correlate_eq_answered_iff {reply : Reply} : correlate index answer = .ok (.answered reply) ↔
    4 ≤ answer.length ∧ answer[1]? = some index ∧ answer = reply.bytes := by
  rcases correlate_cases index answer with ⟨hl, h⟩ | ⟨reply', rfl, h⟩
  · rw [h]
    exact iff_of_false (fun h => nomatch h) fun h => absurd h.1 (by omega)
  · rw [h]
    constructor
    · intro h
      split at h
      · obtain rfl := Outcome.answered.inj (Except.ok.inj h)
        exact ⟨by simp [Reply.bytes], by simp [Reply.bytes, *], rfl⟩
      · cases h
    · rintro ⟨-, hi, hb⟩
      have hi : reply'.deviceIndex = index := by simpa [Reply.bytes] using hi
      have hr : reply' = reply :=
        Except.ok.inj ((Reply.ofBytes_eq_ok_iff.2 rfl).symm.trans (Reply.ofBytes_eq_ok_iff.2 hb))
      rw [if_pos hi, hr]

theorem correlate_eq_uncorrelated_iff : correlate index answer = .ok .uncorrelated ↔
    4 ≤ answer.length ∧ answer[1]? ≠ some index := by
  rcases correlate_cases index answer with ⟨hl, h⟩ | ⟨reply, rfl, h⟩
  · rw [h]
    exact iff_of_false (fun h => nomatch h) fun h => absurd h.1 (by omega)
  · rw [h]
    by_cases hi : reply.deviceIndex = index <;> simp [hi, Reply.bytes]

theorem correlate_eq_malformed_iff {n : Nat} : correlate index answer = .error (.malformed n) ↔
    answer.length < 4 ∧ n = answer.length := by
  rcases correlate_cases index answer with ⟨hl, h⟩ | ⟨reply, rfl, h⟩
  · rw [h]
    simp [hl, eq_comm]
  · rw [h]
    refine iff_of_false (fun h => nomatch h) fun h => ?_
    have hl := h.1
    simp only [Reply.bytes, List.length_cons] at hl
    omega

theorem correlate_ne_disconnected {err : IoError} : correlate index answer ≠ .error (.disconnected err) := by
  rcases correlate_cases index answer with ⟨-, h⟩ | ⟨reply, -, h⟩ <;> rw [h] <;> simp

end Mouse

/-! ### One play -/

section
variable {f : Bytes} {ms : UInt64} {n : Nat} {err : IoError}

theorem BoltOutcome.unsent :
    BoltOutcome f ms [.discard n, .write f (.error err)] (.error (.disconnected err)) := by
  constructor <;> simp

theorem BoltOutcome.unanswered :
    BoltOutcome f ms [.discard n, .write f (.ok ()), .read 20 ms (.error err)] (.error (.disconnected err)) := by
  constructor <;> simp

theorem exists_sent_iff {answer : Bytes} {p : Bytes → Prop} :
    (∃ n' answer', [Call.discard n, .write f (.ok ()), .read 20 ms (.ok answer)] =
      [.discard n', .write f (.ok ()), .read 20 ms (.ok answer')] ∧ p answer') ↔ p answer := by
  constructor
  · rintro ⟨n', answer', h, hp⟩
    cases h
    exact hp
  · exact fun hp => ⟨n, answer, rfl, hp⟩

theorem BoltOutcome.sent {index : UInt8} {answer : Bytes} (hf : f[1]? = some index) :
    BoltOutcome f ms [.discard n, .write f (.ok ()), .read 20 ms (.ok answer)]
      (Mouse.correlate index answer) where
  answered reply := by
    rw [Mouse.correlate_eq_answered_iff, exists_sent_iff, hf]
  uncorrelated := by
    rw [Mouse.correlate_eq_uncorrelated_iff, exists_sent_iff, hf]
  malformed len := by
    rw [Mouse.correlate_eq_malformed_iff, exists_sent_iff]
  disconnected err := iff_of_false Mouse.correlate_ne_disconnected (by simp)

theorem BluetoothOutcome.posted : BluetoothOutcome f [.write f (.ok ())] (.ok .written) := by
  constructor <;> simp

theorem BluetoothOutcome.postFailed (hv : err.hasVanished = false) :
    BluetoothOutcome f [.write f (.error err)] (.error (.transport err)) := by
  constructor <;> simp [hv]

theorem BluetoothOutcome.postLost (hv : err.hasVanished = true) :
    BluetoothOutcome f [.write f (.error err)] (.error (.disconnected err)) := by
  constructor <;> simp [hv]

end

/-- The release of a handle, or nothing. -/
def IsRelease (l : List Call) : Prop := l = [] ∨ ∃ r, l = [.close r]

/-- A dialogue is a block that decides on the result, and then the release of a handle that was lost. -/
theorem Dialogue.block {m : Mouse H} {e : Effect} {l : List Call} {r : Except DeviceError Outcome}
    (h : Dialogue m e l r) : ∃ b last, l = b ++ last ∧ Block m.index m.timeoutMs e m.connection b ∧
      IsRelease last ∧
      (m.connection = .bolt → BoltOutcome (m.command e).bytes m.timeoutMs b r) ∧
      (m.connection = .bluetooth → BluetoothOutcome (m.command e).bytes b r) := by
  -- the command is the one for the connection at hand
  obtain ⟨c, path, index, ms, g, st⟩ := m
  cases h with
  | posted hc =>
    obtain rfl := hc
    exact ⟨_, [], rfl, .posted _, .inl rfl, nofun, fun _ => .posted⟩
  | postFailed hc hv =>
    obtain rfl := hc
    exact ⟨_, [], rfl, .posted _, .inl rfl, nofun, fun _ => .postFailed hv⟩
  | postLost hc hv =>
    obtain rfl := hc
    exact ⟨[.write _ _], [.close _], rfl, .posted _, .inr ⟨_, rfl⟩, nofun, fun _ => .postLost hv⟩
  | unsent hc =>
    obtain rfl := hc
    exact ⟨[.discard _, .write _ _], [.close _], rfl, .unsent .., .inr ⟨_, rfl⟩, fun _ => .unsent, nofun⟩
  | unanswered hc =>
    obtain rfl := hc
    exact ⟨[.discard _, .write _ _, .read ..], [.close _], rfl, .sent .., .inr ⟨_, rfl⟩,
      fun _ => .unanswered, nofun⟩
  | answered hc =>
    obtain rfl := hc
    exact ⟨_, [], (List.append_nil _).symm, .sent .., .inl rfl, fun _ => .sent rfl, nofun⟩

/-! ### A whole life -/

/-- The blocks of some plays, one after the other, and perhaps a release. -/
def Spoken (index : Option UInt8) (timeoutMs : UInt64) (c : Connection) (l : List Call) : Prop :=
  ∃ (blocks : List (List Call)) (last : List Call), l = blocks.flatten ++ last ∧
    (∀ b ∈ blocks, ∃ e, Block index timeoutMs e c b) ∧ IsRelease last

namespace Spoken

variable {index : Option UInt8} {ms : UInt64} {c : Connection} {l l' : List Call}

theorem nil : Spoken index ms c [] := ⟨[], [], rfl, by simp, .inl rfl⟩

theorem release (r : Except IoError Unit) : Spoken index ms c [.close r] :=
  ⟨[], [.close r], rfl, by simp, .inr ⟨r, rfl⟩⟩

theorem block {b last : List Call} {e : Effect} (hb : Block index ms e c b) (hl : IsRelease last) :
    Spoken index ms c (b ++ last) :=
  ⟨[b], last, by simp, by simpa using ⟨e, hb⟩, hl⟩

/-- What is said over a handle that was not released goes on. -/
theorem append (h : Spoken index ms c l) (hopen : ∀ x ∈ l, x.isClose = false) (h' : Spoken index ms c l') :
    Spoken index ms c (l ++ l') := by
  obtain ⟨blocks, last, rfl, hb, hlast⟩ := h
  obtain ⟨blocks', last', rfl, hb', hlast'⟩ := h'
  obtain rfl : last = [] := by
    rcases hlast with rfl | ⟨r, rfl⟩
    · rfl
    · have hx := hopen (.close r) (by simp)
      cases hx
  refine ⟨blocks ++ blocks', last', by simp, fun b hmem => ?_, hlast'⟩
  rcases List.mem_append.1 hmem with hmem | hmem
  · exact hb b hmem
  · exact hb' b hmem

end Spoken

theorem Traced.callsOn_append {s s' : Traced W} {l : List Call} {k n : Nat}
    (h : s'.calls = s.calls ++ l.map (k, ·)) : s'.callsOn n = s.callsOn n ++ if n = k then l else [] := by
  by_cases hn : n = k
  · subst hn
    simp [callsOn, h, List.filter_map, Function.comp_def]
  · have hn' : k ≠ n := Ne.symm hn
    simp [callsOn, h, List.filter_map, Function.comp_def, hn, hn']

namespace Mouse

variable {t : Transport W H}

section
variable {m : Mouse H} {w : W}

/-- How commands reach the device. -/
def line (m : Mouse H) : Connection × Option UInt8 × UInt64 := (m.connection, m.index, m.timeoutMs)

theorem use_line (u : Use) : (m.use t u w).2.1.line = m.line := by
  have hplay : ∀ e, (m.play t e w).2.1.line = m.line := by
    intro e
    unfold play
    split
    · rfl
    · rfl
    · split
      · rfl
      · dsimp only
        split <;> rfl
  cases u with
  | acquire =>
    simp only [use, opened]
    split
    · rfl
    · rfl
    · rcases t.acquire m.connection m.path w with ⟨e | g, w'⟩ <;> rfl
  | close =>
    simp only [use]
    rcases hg : m.transport with _ | g
    · simp only [closed, hg]; rfl
    · obtain ⟨r, hr⟩ := closed_of_some (t := t) (w := w) hg
      rw [hr]; rfl
  | play e => exact hplay e
  | send n =>
    simp only [use, send]
    split
    · rfl
    · exact hplay _

end

variable {m : Mouse (Nat × H)} {s : Traced W}

/-- What one use says over the handle of the mouse. -/
theorem use_spoken (u : Use) (h : m.Sound) : ∃ k l, (l = [] ∨ m.handle? = some k) ∧
    Spoken m.index m.timeoutMs m.connection l ∧
    (m.use t.traced u s).2.2.calls = s.calls ++ l.map (k, ·) := by
  have hplay : ∀ e, ∃ k l, (l = [] ∨ m.handle? = some k) ∧ Spoken m.index m.timeoutMs m.connection l ∧
      (m.play t.traced e s).2.2.calls = s.calls ++ l.map (k, ·) := by
    intro e
    by_cases hs : m.state = .opened
    · obtain ⟨g, hg⟩ := h.transport_of_opened hs
      obtain ⟨l, hl, hd⟩ := play_traced t m e s hs hg
      obtain ⟨b, last, rfl, hb, hlast, -, -⟩ := hd.block
      exact ⟨g.1, _, .inr (by rw [handle?, hg]; rfl), .block hb hlast, hl⟩
    · rw [play_of_not_opened hs]
      exact ⟨0, [], .inl rfl, .nil, by simp⟩
  cases u with
  | acquire => exact ⟨0, [], .inl rfl, .nil, by simpa [use] using opened_traced t m s⟩
  | close =>
    rcases hg : m.transport with _ | g
    · exact ⟨0, [], .inl rfl, .nil, by simp [use, closed, hg]⟩
    · obtain ⟨r, hr⟩ := closed_of_some (t := t.traced) (w := s) hg
      refine ⟨g.1, [.close (t.close g.2 s.world).1], .inr (by rw [handle?, hg]; rfl), .release _, ?_⟩
      simp only [use, hr]
      rfl
  | play e => exact hplay e
  | send n =>
    simp only [use, send]
    split
    · exact ⟨0, [], .inl rfl, .nil, by simp⟩
    · exact hplay _

/-- Later in the life of `m₀`, the calls on each handle are those of its protocol. -/
structure Heard (m₀ m : Mouse (Nat × H)) (s : Traced W) : Prop where
  inOrder : m.InOrder s
  line : m.line = m₀.line
  spoken : ∀ k, Spoken m₀.index m₀.timeoutMs m₀.connection (s.callsOn k)

theorem Heard.use {m₀ : Mouse (Nat × H)} (u : Use) (h : m₀.Heard m s) :
    m₀.Heard (m.use t.traced u s).2.1 (m.use t.traced u s).2.2 := by
  refine ⟨use_inOrder u h.inOrder, by rw [use_line, h.line], fun n => ?_⟩
  obtain ⟨k, l, hk, hl, hc⟩ := use_spoken (t := t) (s := s) u h.inOrder.sound
  obtain ⟨hconn, hline⟩ := Prod.mk.inj h.line
  obtain ⟨hindex, hms⟩ := Prod.mk.inj hline
  rw [hindex, hms, hconn] at hl
  rw [Traced.callsOn_append hc]
  split
  · subst n
    rcases hk with rfl | hk
    · simpa using h.spoken k
    · exact (h.spoken k).append (h.inOrder.tended.isOpen k hk) hl
  · simpa using h.spoken n

theorem Heard.uses {m₀ : Mouse (Nat × H)} (us : List Use) (h : m₀.Heard m s) :
    m₀.Heard (m.uses t.traced us s).1 (m.uses t.traced us s).2 := by
  induction us generalizing m s with
  | nil => exact h
  | cons u us ih => exact ih (h.use u)

theorem IsMade.heard {m : Mouse (Nat × H)} {n : Nat} (h : m.IsMade n) (w : W) :
    m.Heard m (Traced.start w n) :=
  ⟨h.inOrder w, rfl, fun _ => .nil⟩

/-- A number that is no effect's is refused before anything is said; any other is played. -/
theorem send_eq (t : Transport W H) (m : Mouse H) (n : Int64) (w : W) :
    if 0 ≤ n.toInt ∧ n.toInt ≤ 15 then
      ∃ e : Effect, (e.number : Int) = n.toInt ∧ m.send t n w = m.play t e w
    else m.send t n w = (.error (.invalidArgument n), m, w) := by
  split
  · rename_i h
    refine ⟨⟨⟨n.toInt.toNat, by omega⟩⟩, Int.toNat_of_nonneg h.1, ?_⟩
    simp only [send, Effect.ofNumber, dif_pos h]
  · rename_i h
    simp only [send, Effect.ofNumber, dif_neg h, DeviceError.ofWire]

/-- However a mouse has been used since it was made, what was said over each of its handles are the blocks of
its plays, one after the other, and at the end perhaps the release. The command is a report of 7 bytes over Bolt
and one of 20 bytes over Bluetooth. A number that is no effect's, and a play on a mouse that is not open, change
nothing and say nothing. A play on an open mouse says one block, with the release behind it if the device is lost,
and the calls of that block decide on its result. -/
theorem uses_protocol (t : Transport W H) {m₀ : Mouse (Nat × H)} {n : Nat} (h₀ : m₀.IsMade n) (w : W)
    (us : List Use) :
    let m := (m₀.uses t.traced us (Traced.start w n)).1
    let s := (m₀.uses t.traced us (Traced.start w n)).2
    (∀ k, ∃ (blocks : List (List Call)) (last : List Call), s.callsOn k = blocks.flatten ++ last ∧
      (∀ b ∈ blocks, ∃ e, Block m₀.index m₀.timeoutMs e m₀.connection b) ∧
      (last = [] ∨ ∃ r, last = [.close r])) ∧
    (∀ e, (Frame.trigger .bolt m₀.index e).bytes.length = 7 ∧
      (Frame.trigger .bluetooth m₀.index e).bytes.length = 20) ∧
    (∀ i : Int64, if 0 ≤ i.toInt ∧ i.toInt ≤ 15 then
        ∃ e : Effect, (e.number : Int) = i.toInt ∧ m.send t.traced i s = m.play t.traced e s
      else m.send t.traced i s = (.error (.invalidArgument i), m, s)) ∧
    (∀ e, m.state ≠ .opened →
      m.play t.traced e s = (.error (if m.state = .terminal then .spent else .notOpen), m, s)) ∧
    ∀ e, m.state = .opened → ∃ k b last, m.handle? = some k ∧
      (m.play t.traced e s).2.2.calls = s.calls ++ (b ++ last).map (k, ·) ∧
      Block m₀.index m₀.timeoutMs e m₀.connection b ∧ (last = [] ∨ ∃ r, last = [.close r]) ∧
      (m₀.connection = .bolt →
        BoltOutcome (Frame.trigger .bolt m₀.index e).bytes m₀.timeoutMs b (m.play t.traced e s).1) ∧
      (m₀.connection = .bluetooth →
        BluetoothOutcome (Frame.trigger .bluetooth m₀.index e).bytes b (m.play t.traced e s).1) := by
  intro m s
  have h : m₀.Heard m s := (h₀.heard w).uses us
  refine ⟨h.spoken, fun e => ⟨Frame.length_bytes _, Frame.length_bytes _⟩,
    fun i => send_eq t.traced m i s, fun e hs => play_of_not_opened hs, fun e hs => ?_⟩
  obtain ⟨g, hg⟩ := h.inOrder.sound.transport_of_opened hs
  obtain ⟨l, hl, hd⟩ := play_traced t m e s hs hg
  obtain ⟨b, last, rfl, hb, hlast, hbolt, hblue⟩ := hd.block
  obtain ⟨hconn, hline⟩ := Prod.mk.inj h.line
  obtain ⟨hindex, hms⟩ := Prod.mk.inj hline
  simp only [command, hconn, hindex, hms] at hb hbolt hblue
  exact ⟨g.1, b, last, by rw [handle?, hg]; rfl, hl, hb, hlast, fun hc => hc ▸ hbolt hc, fun hc => hc ▸ hblue hc⟩

/-- The receiver answers for another device first, then for the one addressed, and then its node is gone. -/
theorem uses_protocol_bolt :
    let answers : List (Except IoError Bytes) := [.ok [0x10, 1, 0x0B, 0x4E, 3], .ok [0x10, 2, 0x0B, 0x4E, 5, 0, 0]]
    let t : Transport (List (Except IoError Bytes)) Unit :=
      ⟨fun _ _ w => (.ok (), w), fun _ w => (0, w),
        fun _ _ w => (if w.isEmpty then .error (.os Errno.noDevice) else .ok (), w),
        fun _ _ _ w => (w.headD (.error (.other "timeout")), w.tail), fun _ w => (.ok (), w)⟩
    let m₀ : Mouse (Nat × Unit) := .holding .bolt "/dev/hidraw0" (some 2) 100 (0, ())
    let m := (m₀.uses t.traced [.play ⟨3⟩, .send 16] (Traced.start answers 1)).1
    let s := (m₀.uses t.traced [.play ⟨3⟩, .send 16] (Traced.start answers 1)).2
    m₀.IsMade 1 ∧ m.state = .opened ∧
      (∃ (blocks : List (List Call)) (last : List Call), s.callsOn 0 = blocks.flatten ++ last ∧
        (∀ b ∈ blocks, ∃ e, Block (some 2) 100 e .bolt b) ∧ (last = [] ∨ ∃ r, last = [.close r])) ∧
      m.send t.traced 16 s = (.error (.invalidArgument 16), m, s) ∧
      (m.play t.traced ⟨5⟩ s).1 = .ok (.answered ⟨0x10, 2, 0x0B4E, [5, 0, 0]⟩) ∧
      ∃ b, BoltOutcome (Frame.trigger .bolt (some 2) ⟨5⟩).bytes 100 b (m.play t.traced ⟨5⟩ s).1 := by
  intro answers t m₀ m s
  have hm : m₀.IsMade 1 := .holding ..
  obtain ⟨hblocks, -, hsend, -, hplay⟩ := uses_protocol t hm answers [.play ⟨3⟩, .send 16]
  obtain ⟨-, b, -, -, -, -, -, hbolt, -⟩ := hplay ⟨5⟩ rfl
  exact ⟨hm, rfl, hblocks 0, by simpa using hsend 16, rfl, b, hbolt rfl⟩

end Mouse

end Haptics
