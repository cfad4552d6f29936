import Haptics.Events.Client
import Haptics.Proofs.Events.Asked
import Haptics.Proofs.Events.Lines
import Mathlib.Data.List.ModifyLast

/-!
# What a listener hears

A watch is a listener with what has come to it: its broadcasts, one for each connection, and the lines that
it has taken. However the bytes of a broadcast were cut into portions, the lines taken are those of its bytes
as a whole, and what they ask for is decided by one memory that outlives the connections
(`Watch.run_hears`).
-/

namespace Haptics.Events

/-! ### Broadcasts -/

inductive Ending where
  | endOfStream
  | readFailure
  deriving DecidableEq

/-- The lines that an ending adds. -/
def Ending.lines (pending : Bytes) : Ending → List Bytes
  | endOfStream => finish pending
  | readFailure => []

/-- All that came on one connection, and how it ended, if it has. -/
structure Broadcast where
  bytes : Bytes
  ending : Option Ending
  deriving DecidableEq

namespace Broadcast

def extend (chunk : Bytes) (b : Broadcast) : Broadcast := { b with bytes := b.bytes ++ chunk }

def close (e : Ending) (b : Broadcast) : Broadcast := { b with ending := some e }

/-- The lines of a broadcast: one for each newline, and one for what is behind the last, unless that is
nothing or a read has failed. -/
def IsLines (b : Broadcast) (lines : List Bytes) : Prop :=
  ∃ whole rest, Cut b.bytes whole rest ∧
    lines = whole ++ if b.ending = some .endOfStream ∧ rest ≠ [] then [rest] else []

/-- The lines of several broadcasts, one broadcast after the other. -/
def AreLines (bs : List Broadcast) (lines : List Bytes) : Prop :=
  ∃ rows, List.Forall₂ IsLines bs rows ∧ lines = rows.flatten

def lines (b : Broadcast) : List Bytes :=
  (split b.bytes).1 ++ b.ending.elim [] (·.lines (split b.bytes).2)

theorem isLines_lines (b : Broadcast) : b.IsLines b.lines := by
  refine ⟨_, _, cut_split b.bytes, ?_⟩
  have hrest : b.ending.elim [] (·.lines (split b.bytes).2) =
      if b.ending = some .endOfStream ∧ (split b.bytes).2 ≠ [] then [(split b.bytes).2] else [] := by
    rcases b.ending with _ | _ | _
    · rfl
    · rcases (split b.bytes).2 with _ | ⟨x, xs⟩ <;> simp [Ending.lines, finish]
    · simp [Ending.lines]
  rw [lines, hrest]

theorem areLines_flatMap (bs : List Broadcast) : AreLines bs (bs.flatMap lines) := by
  refine ⟨bs.map lines, ?_, List.flatMap_def ..⟩
  induction bs with
  | nil => exact .nil
  | cons b bs ih => exact .cons b.isLines_lines ih

/-- One row of broadcasts is what another one begins with. The last one need not be complete, if it has
not ended. -/
inductive Begins : List Broadcast → List Broadcast → Prop
  | nothing (full : List Broadcast) : Begins [] full
  | underway {bytes : Bytes} {b : Broadcast} (later : List Broadcast) (h : bytes <+: b.bytes) :
    Begins [⟨bytes, none⟩] (b :: later)
  | next (b : Broadcast) {bs full : List Broadcast} (h : Begins bs full) : Begins (b :: bs) (b :: full)

theorem Begins.lines_isPrefix {bs full : List Broadcast} (h : Begins bs full) :
    bs.flatMap lines <+: full.flatMap lines := by
  induction h with
  | nothing full => exact List.nil_prefix
  | @underway bytes b later h =>
    obtain ⟨more, hb⟩ := h
    have hwhole : lines ⟨bytes, none⟩ <+: b.lines := by
      rw [lines, lines, ← hb, split_append, List.append_assoc]
      exact (List.prefix_append_right_inj _).2 List.nil_prefix
    rw [List.flatMap_cons, List.flatMap_cons, List.flatMap_nil, List.append_nil]
    exact hwhole.trans (List.prefix_append _ _)
  | next b h ih =>
    rw [List.flatMap_cons, List.flatMap_cons]
    exact (List.prefix_append_right_inj _).2 ih

end Broadcast

/-! ### Watches -/

/-- What happens to a listener or around it. -/
inductive Happening where
  | connect (result : Except IoError Unit) (nowMs : Nat)
  | receive (chunk : Bytes)
  | endOfStream (nowMs : Nat)
  | readFailure (nowMs : Nat)
  | shutDown
  /-- Other settings hold from now on. -/
  | configure (settings : Settings)
  /-- Others have used the queue. -/
  | refill (inbox : Inbox)

def Client.happen (s : Settings) (c : Client) : Happening → Client
  | .connect result nowMs => c.connect result nowMs
  | .receive chunk => c.receive s chunk
  | .endOfStream nowMs => c.endOfStream s nowMs
  | .readFailure nowMs => c.readFailure nowMs
  | .shutDown => c.shutDown
  | .configure _ => c
  | .refill inbox => { c with listener := { c.listener with inbox := inbox } }

/-- The lines that the listener takes when something happens. -/
def Client.taken (c : Client) : Happening → List Bytes
  | .receive chunk =>
    match c.task with
    | .reading pending => (feed pending chunk).1
    | _ => []
  | .endOfStream _ =>
    match c.task with
    | .reading pending => finish pending
    | _ => []
  | _ => []

structure Watch where
  client : Client
  settings : Settings
  broadcasts : List Broadcast
  /-- The lines taken, in order. -/
  heard : List Heard

namespace Watch

def start (inbox : Inbox) (nowMs : Nat) (s : Settings) : Watch := ⟨.new inbox nowMs, s, [], []⟩

def recorded (w : Watch) : Happening → List Broadcast
  | .connect (.ok ()) _ =>
    match w.client.task with
    | .connecting _ => w.broadcasts ++ [⟨[], none⟩]
    | _ => w.broadcasts
  | .receive chunk =>
    match w.client.task with
    | .reading _ => w.broadcasts.modifyLast (·.extend chunk)
    | _ => w.broadcasts
  | .endOfStream _ =>
    match w.client.task with
    | .reading _ => w.broadcasts.modifyLast (·.close .endOfStream)
    | _ => w.broadcasts
  | .readFailure _ =>
    match w.client.task with
    | .reading _ => w.broadcasts.modifyLast (·.close .readFailure)
    | _ => w.broadcasts
  | _ => w.broadcasts

def configured (w : Watch) : Happening → Settings
  | .configure s => s
  | _ => w.settings

def step (w : Watch) (h : Happening) : Watch :=
  ⟨w.client.happen w.settings h, w.configured h, w.recorded h,
    w.heard ++ (w.client.taken h).map (⟨w.settings, ·⟩)⟩

def run (w : Watch) (hs : List Happening) : Watch := hs.foldl step w

def lines (w : Watch) : List Bytes := w.heard.map (·.line)

/-- The numbers that were asked for. -/
def asked (w : Watch) : List Int64 := Memory.asked w.heard .empty

/-! ### What happens in one step -/

/-- What one step can do to the broadcasts and the lines. -/
inductive Move (w : Watch) : Watch → Prop
  /-- No bytes come, and those that wait are only lost with their connection. -/
  | quiet {w' : Watch} (hb : w'.broadcasts = w.broadcasts) (hh : w'.heard = w.heard)
      (hm : w'.client.listener.memory = w.client.listener.memory)
      (ht : w'.client.task = w.client.task ∨ ∀ pending, w'.client.task ≠ .reading pending) : Move w w'
  | connect {w' : Watch} (hb : w'.broadcasts = w.broadcasts ++ [⟨[], none⟩]) (hh : w'.heard = w.heard)
      (hm : w'.client.listener.memory = w.client.listener.memory)
      (ht : w'.client.task = .reading []) : Move w w'
  | receive {pending : Bytes} (chunk : Bytes) (ht : w.client.task = .reading pending) :
    Move w ⟨⟨w.client.listener.hearAll w.settings (feed pending chunk).1, .reading (feed pending chunk).2⟩,
      w.settings, w.broadcasts.modifyLast (·.extend chunk),
      w.heard ++ (feed pending chunk).1.map (⟨w.settings, ·⟩)⟩
  | close {pending : Bytes} (e : Ending) (dueMs : Nat) (ht : w.client.task = .reading pending) :
    Move w ⟨⟨w.client.listener.hearAll w.settings (e.lines pending), .connecting dueMs⟩, w.settings,
      w.broadcasts.modifyLast (·.close e), w.heard ++ (e.lines pending).map (⟨w.settings, ·⟩)⟩

theorem step_move (w : Watch) (h : Happening) : Move w (w.step h) := by
  obtain ⟨⟨listener, task⟩, s, broadcasts, heard⟩ := w
  cases h with
  | connect result nowMs =>
    cases task with
    | connecting dueMs =>
      rcases result with e | ⟨⟨⟩⟩
      · exact .quiet rfl (List.append_nil heard) rfl (.inr fun _ => Task.noConfusion)
      · exact .connect rfl (List.append_nil heard) rfl rfl
    | reading pending => rcases result with e | ⟨⟨⟩⟩ <;> exact .quiet rfl (List.append_nil heard) rfl (.inl rfl)
    | stopped => rcases result with e | ⟨⟨⟩⟩ <;> exact .quiet rfl (List.append_nil heard) rfl (.inl rfl)
  | receive chunk =>
    cases task with
    | reading pending => exact Move.receive (w := ⟨⟨listener, .reading pending⟩, s, broadcasts, heard⟩) chunk rfl
    | connecting | stopped => exact .quiet rfl (List.append_nil heard) rfl (.inl rfl)
  | endOfStream nowMs =>
    cases task with
    | reading pending =>
      exact Move.close (w := ⟨⟨listener, .reading pending⟩, s, broadcasts, heard⟩) .endOfStream _ rfl
    | connecting | stopped => exact .quiet rfl (List.append_nil heard) rfl (.inl rfl)
  | readFailure nowMs =>
    cases task with
    | reading pending =>
      exact Move.close (w := ⟨⟨listener, .reading pending⟩, s, broadcasts, heard⟩) .readFailure _ rfl
    | connecting | stopped => exact .quiet rfl (List.append_nil heard) rfl (.inl rfl)
  | shutDown => exact .quiet rfl (List.append_nil heard) rfl (.inr fun _ => Task.noConfusion)
  | configure | refill => exact .quiet rfl (List.append_nil heard) rfl (.inl rfl)

variable {w w' : Watch} {h : Happening}

theorem lines_step (w : Watch) (h : Happening) : (w.step h).lines = w.lines ++ w.client.taken h := by
  rw [lines, step, List.map_append, Heard.map_line_map]
  rfl

/-- The listener hears what it takes, and nothing else. -/
theorem listener_step (hr : ∀ inbox, h ≠ .refill inbox) :
    (w.step h).client.listener = w.client.listener.hearAll w.settings (w.client.taken h) := by
  obtain ⟨⟨listener, task⟩, s, broadcasts, heard⟩ := w
  cases h with
  | connect result nowMs =>
    cases task with
    | connecting dueMs => cases result <;> rfl
    | reading | stopped => rfl
  | receive | endOfStream | readFailure => cases task <;> rfl
  | shutDown | configure => rfl
  | refill inbox => exact absurd rfl (hr inbox)

theorem step_stopped (ht : w.client.task = .stopped) (h : Happening) :
    (w.step h).client.task = .stopped ∧ (w.step h).heard = w.heard := by
  obtain ⟨⟨listener, task⟩, s, broadcasts, heard⟩ := w
  obtain rfl : task = .stopped := ht
  cases h <;> exact ⟨rfl, List.append_nil heard⟩

theorem run_stopped (ht : w.client.task = .stopped) (hs : List Happening) : (w.run hs).heard = w.heard := by
  induction hs generalizing w with
  | nil => rfl
  | cons h hs ih =>
    obtain ⟨ht', hh⟩ := step_stopped ht h
    exact (ih ht').trans hh

/-! ### What every run keeps -/

/-- The lines, what waits to be read on and the memory are those of the broadcasts so far. -/
structure Sound (w : Watch) : Prop where
  lines : w.lines = w.broadcasts.flatMap Broadcast.lines
  pending : ∀ pending, w.client.task = .reading pending →
    ∃ past bytes, w.broadcasts = past ++ [⟨bytes, none⟩] ∧ pending = (split bytes).2
  memory : w.client.listener.memory = Memory.empty.afterAll w.heard

theorem Sound.start (inbox : Inbox) (nowMs : Nat) (s : Settings) : (Watch.start inbox nowMs s).Sound :=
  ⟨rfl, fun _ hp => Task.noConfusion hp, rfl⟩

/-- Lines that the last broadcast gains are heard. -/
theorem Sound.lines_modifyLast (hw : w.Sound) {past : List Broadcast} {b : Broadcast}
    {f : Broadcast → Broadcast} {lines : List Bytes} (hb : w.broadcasts = past ++ [b])
    (hf : (f b).lines = b.lines ++ lines) :
    (w.heard ++ lines.map (Heard.mk w.settings)).map Heard.line =
      (w.broadcasts.modifyLast f).flatMap Broadcast.lines := by
  calc (w.heard ++ lines.map (Heard.mk w.settings)).map Heard.line
      = w.lines ++ lines := by rw [List.map_append, Heard.map_line_map, Watch.lines]
    _ = past.flatMap Broadcast.lines ++ (b.lines ++ lines) := by
      rw [hw.lines, hb, List.flatMap_append, List.flatMap_singleton, List.append_assoc]
    _ = (w.broadcasts.modifyLast f).flatMap Broadcast.lines := by
      rw [hb, List.modifyLast_concat, List.flatMap_append, List.flatMap_singleton, hf]

theorem Sound.memory_hearAll (hw : w.Sound) (lines : List Bytes) :
    (w.client.listener.hearAll w.settings lines).memory =
      Memory.empty.afterAll (w.heard ++ lines.map (⟨w.settings, ·⟩)) := by
  rw [Listener.hearAll_eq, Memory.afterAll_append, ← hw.memory]

theorem Move.sound (hm : Move w w') (hw : w.Sound) : w'.Sound := by
  cases hm with
  | quiet hb hh hm ht =>
    refine ⟨?_, fun pending hp => ?_, ?_⟩
    · rw [Watch.lines, hh, hb]
      exact hw.lines
    · rw [hb]
      rcases ht with ht | ht
      · exact hw.pending pending (ht ▸ hp)
      · exact absurd hp (ht pending)
    · rw [hm, hh]
      exact hw.memory
  | connect hb hh hm ht =>
    refine ⟨?_, fun pending hp => ?_, ?_⟩
    · rw [Watch.lines, hh, hb, List.flatMap_append]
      exact hw.lines.trans (List.append_nil _).symm
    · obtain rfl : [] = pending := Task.reading.inj (ht.symm.trans hp)
      exact ⟨w.broadcasts, [], hb, rfl⟩
    · rw [hm, hh]
      exact hw.memory
  | @receive pending chunk ht =>
    obtain ⟨past, bytes, hb, rfl⟩ := hw.pending _ ht
    have hsplit := split_append bytes chunk
    have hgain : (Broadcast.extend chunk ⟨bytes, none⟩).lines =
        Broadcast.lines ⟨bytes, none⟩ ++ (feed (split bytes).2 chunk).1 := by
      show (split (bytes ++ chunk)).1 ++ [] = (split bytes).1 ++ [] ++ _
      rw [hsplit, List.append_nil, List.append_nil]
    refine ⟨hw.lines_modifyLast hb hgain, fun pending hp => ?_, hw.memory_hearAll _⟩
    obtain rfl := Task.reading.inj hp
    exact ⟨past, bytes ++ chunk, by rw [hb, List.modifyLast_concat]; rfl, by rw [hsplit]⟩
  | @close pending e dueMs ht =>
    obtain ⟨past, bytes, hb, rfl⟩ := hw.pending _ ht
    have hgain : (Broadcast.close e ⟨bytes, none⟩).lines =
        Broadcast.lines ⟨bytes, none⟩ ++ e.lines (split bytes).2 := by
      show (split bytes).1 ++ e.lines (split bytes).2 = (split bytes).1 ++ [] ++ _
      rw [List.append_nil]
    exact ⟨hw.lines_modifyLast hb hgain, fun _ hp => Task.noConfusion hp, hw.memory_hearAll _⟩

theorem run_sound (hw : w.Sound) (hs : List Happening) : (w.run hs).Sound := by
  induction hs generalizing w with
  | nil => exact hw
  | cons h hs ih => exact ih ((step_move w h).sound hw)

/-! ### Runs under the same settings -/

/-- Every line was taken under the settings that hold now. -/
def Steady (w : Watch) : Prop := ∀ h ∈ w.heard, h.settings = w.settings

theorem Steady.step (hw : w.Steady) (hc : ∀ s, h ≠ .configure s) :
    (w.step h).Steady ∧ (w.step h).settings = w.settings := by
  have hs : w.configured h = w.settings := by
    cases h with
    | configure s => exact absurd rfl (hc s)
    | _ => rfl
  refine ⟨fun x hx => ?_, hs⟩
  show x.settings = w.configured h
  rw [hs]
  rcases List.mem_append.1 hx with hx | hx
  · exact hw x hx
  · obtain ⟨line, -, rfl⟩ := List.mem_map.1 hx
    rfl

theorem Steady.run (hw : w.Steady) {hs : List Happening} (hc : ∀ h ∈ hs, ∀ s, h ≠ .configure s) :
    (w.run hs).Steady ∧ (w.run hs).settings = w.settings := by
  induction hs generalizing w with
  | nil => exact ⟨hw, rfl⟩
  | cons h hs ih =>
    obtain ⟨hw', hs'⟩ := hw.step (hc h List.mem_cons_self)
    obtain ⟨hsteady, hsettings⟩ := ih hw' fun h hh => hc h (List.mem_cons_of_mem _ hh)
    exact ⟨hsteady, hsettings.trans hs'⟩

theorem Steady.heard_eq (hw : w.Steady) : w.heard = w.lines.map (⟨w.settings, ·⟩) := by
  rw [lines, List.map_map]
  refine (List.map_id _).symm.trans (List.map_congr_left fun h hh => ?_)
  rw [← hw h hh]
  rfl

/-- Whatever happens to a listener, and in whatever portions its bytes come, the lines that it has taken are
those of its broadcasts, in order; if the last broadcast goes on, or others follow, they are the first of
what the lines will be. Each step hears the lines it takes, which is to ask for the numbers that all lines
so far ask for beyond those asked for before, and after the end none is taken. So two listeners under the
same settings that are sent the same broadcasts take the same lines and ask for the same numbers. -/
theorem run_hears (inbox : Inbox) (nowMs : Nat) (s : Settings) (hs : List Happening) :
    let w := (start inbox nowMs s).run hs
    Broadcast.AreLines w.broadcasts w.lines ∧
      (∀ full, Broadcast.Begins w.broadcasts full → ∃ lines, Broadcast.AreLines full lines ∧ w.lines <+: lines) ∧
      (∀ h, (∀ inbox, h ≠ .refill inbox) → ∃ lines numbers,
        (w.step h).lines = w.lines ++ lines ∧ (w.step h).asked = w.asked ++ numbers ∧
          (w.step h).client.listener = w.client.listener.hearAll w.settings lines ∧
          (w.step h).client.listener.inbox = (w.client.listener.inbox.requestAll numbers).2) ∧
      (∀ later, ((w.step .shutDown).run later).heard = w.heard) ∧
      ∀ inbox' nowMs' hs', (∀ h ∈ hs ++ hs', ∀ s, h ≠ .configure s) →
        let w' := (start inbox' nowMs' s).run hs'
        w.broadcasts = w'.broadcasts → w.lines = w'.lines ∧ w.asked = w'.asked := by
  intro w
  have hw : w.Sound := run_sound (.start inbox nowMs s) hs
  refine ⟨?_, fun full hfull => ?_, fun h hr => ?_, fun later => ?_, ?_⟩
  · rw [hw.lines]
    exact Broadcast.areLines_flatMap _
  · refine ⟨_, Broadcast.areLines_flatMap full, ?_⟩
    rw [hw.lines]
    exact hfull.lines_isPrefix
  · have hl := listener_step (w := w) hr
    refine ⟨w.client.taken h, Memory.asked ((w.client.taken h).map (⟨w.settings, ·⟩)) w.client.listener.memory,
      lines_step w h, ?_, hl, ?_⟩
    · rw [hw.memory]
      exact Memory.asked_append _ _
    · rw [hl, Listener.hearAll_eq]
  · exact (run_stopped rfl later).trans (List.append_nil _)
  · intro inbox' nowMs' hs' hc w' hb
    have hw' : w'.Sound := run_sound (.start inbox' nowMs' s) hs'
    have hlines : w.lines = w'.lines := by rw [hw.lines, hw'.lines, hb]
    have hnone : ∀ inbox nowMs, (start inbox nowMs s).Steady := fun _ _ _ hx => absurd hx List.not_mem_nil
    obtain ⟨hsteady, hset⟩ := (hnone inbox nowMs).run fun h hh => hc h (List.mem_append_left _ hh)
    obtain ⟨hsteady', hset'⟩ := (hnone inbox' nowMs').run fun h hh => hc h (List.mem_append_right _ hh)
    refine ⟨hlines, ?_⟩
    rw [asked, asked, hsteady.heard_eq, hsteady'.heard_eq, hset, hset', hlines]
    rfl

/-- A stream cut inside a character, and one cut nowhere; a rest is lost when a read fails, and taken at the end
of a stream. -/
theorem run_hears_cut :
    let hs := [Happening.connect (.ok ()) 0, .receive [119, 62, 62, 195], .receive [169, 10, 119], .readFailure 1,
      .connect (.error (.os Errno.noEntry)) 2, .connect (.ok ()) 3, .receive [119], .receive [62, 62],
      .endOfStream 4]
    let hs' := [Happening.connect (.ok ()) 5, .receive [119, 62, 62, 195, 169, 10, 119], .readFailure 6,
      .connect (.ok ()) 7, .receive [119, 62, 62], .endOfStream 8]
    let w := (start ⟨1, [], false, 0, 0⟩ 0 .default).run hs
    let w' := (start ⟨2, [], true, 0, 0⟩ 5 .default).run hs'
    w.lines = [[119, 62, 62, 195, 169, 10], [119, 62, 62]] ∧ w.lines = w'.lines ∧ w.asked = w'.asked ∧
      ∃ lines, Broadcast.AreLines (w.broadcasts ++ [⟨[10], none⟩]) lines ∧ w.lines <+: lines := by
  intro hs hs' w w'
  obtain ⟨-, hfirst, -, -, hsame⟩ := run_hears ⟨1, [], false, 0, 0⟩ 0 .default hs
  have hsteady : ∀ h ∈ hs ++ hs', ∀ s, h ≠ .configure s := by
    intro h hh s rfl
    simp [hs, hs'] at hh
  obtain ⟨hlines, hasked⟩ := hsame ⟨2, [], true, 0, 0⟩ 5 hs' hsteady rfl
  exact ⟨rfl, hlines, hasked, hfirst _ (.next _ (.next _ (.nothing _)))⟩

end Watch

end Haptics.Events
