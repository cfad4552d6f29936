import Haptics.Proofs.Events.Asked
import Haptics.Proofs.Settings.NameMap

/-!
# Repeats

The listener passes over a watched event whose argument is that of the last event of its name. It has only
a map to decide by, but the map is right about all that was ever heard (`Memory.Recalls`): every event is
remembered before anything can be lost on its way to the queue, and a repeat is remembered already. So
whether a line is passed over is a matter of the lines before it, and of nothing else (`Post.run_repeats`).
-/

namespace Haptics

namespace Event

variable {e x : Event} {past : List Event}

def IsLatest (e : Event) (past : List Event) : Prop :=
  ∃ before after, past = before ++ e :: after ∧ ∀ x ∈ after, x.name ≠ e.name

/-- What the listener passes over: a watched event that is once more the last one of its name. -/
def Repeats (e : Event) (past : List Event) : Prop := e.name ∈ watched ∧ e.IsLatest past

theorem not_isLatest_nil : ¬ e.IsLatest [] := by
  rintro ⟨before, after, h, -⟩
  exact List.append_ne_nil_of_right_ne_nil _ (List.cons_ne_nil _ _) h.symm

theorem isLatest_concat_of_eq (h : x.name = e.name) : e.IsLatest (past ++ [x]) ↔ x = e := by
  constructor
  · rintro ⟨before, after, hp, hafter⟩
    rcases List.eq_nil_or_concat' after with rfl | ⟨after, y, rfl⟩
    · exact List.singleton_inj.1 (List.append_inj_right' hp rfl)
    · -- the last event of the name would have another one of the name behind it
      rw [← List.cons_append, ← List.append_assoc] at hp
      have hxy : x = y := List.singleton_inj.1 (List.append_inj_right' hp rfl)
      exact absurd (hxy ▸ h) (hafter y (by simp))
  · rintro rfl
    exact ⟨past, [], rfl, fun _ hx => absurd hx List.not_mem_nil⟩

theorem isLatest_concat_of_ne (h : x.name ≠ e.name) : e.IsLatest (past ++ [x]) ↔ e.IsLatest past := by
  constructor
  · rintro ⟨before, after, hp, hafter⟩
    rcases List.eq_nil_or_concat' after with rfl | ⟨after, y, rfl⟩
    · have hx : x = e := List.singleton_inj.1 (List.append_inj_right' hp rfl)
      exact absurd (congrArg Event.name hx) h
    · rw [← List.cons_append, ← List.append_assoc] at hp
      exact ⟨before, after, List.append_inj_left' hp rfl, fun z hz => hafter z (List.mem_append_left _ hz)⟩
  · rintro ⟨before, after, rfl, hafter⟩
    refine ⟨before, after ++ [x], by rw [List.append_assoc, List.cons_append], fun z hz => ?_⟩
    rcases List.mem_append.1 hz with hz | hz
    · exact hafter z hz
    · exact List.mem_singleton.1 hz ▸ h

theorem eq_iff_of_name (h : x.name = e.name) : x = e ↔ x.argument = e.argument := by
  obtain ⟨name, argument⟩ := x
  obtain ⟨name', argument'⟩ := e
  obtain rfl : name = name' := h
  simp

end Event

namespace Memory

variable {m : Memory} {past : List Event}

/-- The memory has the argument of the last event under each watched name, and nothing else. -/
def Recalls (m : Memory) (past : List Event) : Prop :=
  ∀ e : Event, m.last.get? e.name = some e.argument ↔ e.Repeats past

theorem Recalls.empty : Memory.empty.Recalls [] := fun _ =>
  ⟨fun h => Option.noConfusion rfl (heq_of_eq h), fun h => absurd h.2 Event.not_isLatest_nil⟩

theorem Recalls.observe_fst (hm : m.Recalls past) (e : Event) : (m.observe e).1 = true ↔ e.Repeats past := by
  rw [← hm e, observe]
  by_cases hw : e.name ∈ Event.watched
  · rw [if_pos (List.contains_iff_mem.2 hw)]
    split <;> simp [*]
  · rw [if_neg (mt List.contains_iff_mem.1 hw)]
    exact ⟨fun h => Bool.noConfusion h, fun h => absurd ((hm e).1 h).1 hw⟩

theorem get?_observe_of_ne {x e : Event} (h : x.name ≠ e.name) :
    (m.observe x).2.last.get? e.name = m.last.get? e.name := by
  rw [observe]
  split
  · split
    · rfl
    · exact NameMap.get?_insert.trans (if_neg h.symm)
  · rfl

theorem get?_observe_self {x : Event} (hw : x.name ∈ Event.watched) :
    (m.observe x).2.last.get? x.name = some x.argument := by
  rw [observe, if_pos (List.contains_iff_mem.2 hw)]
  split
  next h => exact h
  next => exact NameMap.get?_insert.trans (if_pos rfl)

theorem observe_of_not_watched {x : Event} (hw : x.name ∉ Event.watched) : (m.observe x).2 = m := by
  rw [observe, if_neg (mt List.contains_iff_mem.1 hw)]

theorem observe_of_fst {e : Event} (h : (m.observe e).1 = true) : m.observe e = (true, m) := by
  rw [observe] at h ⊢
  split at h
  next hw =>
    rw [if_pos hw]
    split at h
    next hr => rw [if_pos hr]
    next => exact Bool.noConfusion h
  next => exact Bool.noConfusion h

theorem Recalls.observe (hm : m.Recalls past) (x : Event) : (m.observe x).2.Recalls (past ++ [x]) := by
  intro e
  by_cases hn : x.name = e.name
  -- of this name `x` is now the last event, and what was remembered before does not matter
  · have hlatest : e.Repeats (past ++ [x]) ↔ e.name ∈ Event.watched ∧ x.argument = e.argument := by
      rw [Event.Repeats, Event.isLatest_concat_of_eq hn, Event.eq_iff_of_name hn]
    rw [hlatest]
    by_cases hw : e.name ∈ Event.watched
    · have hself : (m.observe x).2.last.get? e.name = some x.argument := hn ▸ get?_observe_self (hn ▸ hw)
      rw [hself, Option.some_inj, and_iff_right hw]
    · have hsame : (m.observe x).2 = m := observe_of_not_watched (hn ▸ hw)
      rw [hsame, hm e]
      exact ⟨fun h => absurd h.1 hw, fun h => absurd h.1 hw⟩
  · rw [get?_observe_of_ne hn, hm e, Event.Repeats, Event.Repeats, Event.isLatest_concat_of_ne hn]

theorem Recalls.after (hm : m.Recalls past) (text : List Char) :
    (m.after text).Recalls (past ++ (Event.parse? text).toList) := by
  rw [Memory.after]
  rcases Event.parse? text with _ | e
  · rw [Option.toList_none, List.append_nil]
    exact hm
  · exact hm.observe e

end Memory

namespace Listener

variable {l : Listener} {s : Settings} {text : List Char}

def suppresses (text : List Char) (l : Listener) : Bool :=
  match Event.parse? text with
  | none => false
  | some e => (l.memory.observe e).1

theorem suppresses_iff {past : List Event} (hl : l.memory.Recalls past) :
    l.suppresses text = true ↔ ∃ e, Event.parse? text = some e ∧ e.Repeats past := by
  rw [suppresses]
  rcases he : Event.parse? text with _ | e
  · simp
  · simp [hl.observe_fst e]

theorem hear_of_parse?_eq_none (h : Event.parse? text = none) : l.hear s text = (none, l) := by
  rw [hear, h]

theorem hear_of_suppresses (h : l.suppresses text = true) : l.hear s text = (none, l) := by
  rcases he : Event.parse? text with _ | e
  · exact hear_of_parse?_eq_none he
  rw [suppresses, he] at h
  rw [hear, he]
  dsimp only
  rw [Memory.observe_of_fst h]

theorem hear_of_new {e : Event} (he : Event.parse? text = some e) (h : l.suppresses text = false) :
    (l.hear s text).1 = (s.effectFor e.name e.argument).map (fun n => (l.inbox.request n).1) ∧
      (l.hear s text).2.inbox =
        (s.effectFor e.name e.argument).elim l.inbox fun n => (l.inbox.request n).2 := by
  simp only [suppresses, he] at h
  rcases ho : l.memory.observe e with ⟨repeats, memory⟩
  obtain rfl : repeats = false := by rw [ho] at h; exact h
  rcases hn : s.effectFor e.name e.argument with _ | n
  · simp only [hear, he, ho, hn]
    exact ⟨rfl, rfl⟩
  · simp only [hear, he, ho, hn]
    exact ⟨rfl, rfl⟩

-- No way through `hear` leaves before the event is remembered.
theorem recalls_hear {past : List Event} (hl : l.memory.Recalls past) (s : Settings) (text : List Char) :
    (l.hear s text).2.memory.Recalls (past ++ (Event.parse? text).toList) := by
  rw [hear_eq]
  exact hl.after text

end Listener

/-- A line for a listener, or what changes around it. -/
inductive Turn where
  | line (text : List Char)
  /-- Other settings hold from now on. -/
  | configure (settings : Settings)
  /-- Others have used the queue. -/
  | refill (inbox : Inbox)

namespace Turn

def event? : Turn → Option Event
  | line text => Event.parse? text
  | configure _ | refill _ => none

def events (ts : List Turn) : List Event := ts.filterMap event?

theorem events_concat (ts : List Turn) (t : Turn) : events (ts ++ [t]) = events ts ++ t.event?.toList := by
  rw [events, List.filterMap_append, events]
  cases h : t.event? <;> simp [h]

end Turn

structure Post where
  listener : Listener
  settings : Settings

namespace Post

def start (inbox : Inbox) (s : Settings) : Post := ⟨.new inbox, s⟩

def step (p : Post) : Turn → Post
  | .line text => { p with listener := (p.listener.hear p.settings text).2 }
  | .configure s => { p with settings := s }
  | .refill inbox => { p with listener := { p.listener with inbox := inbox } }

def run (p : Post) (ts : List Turn) : Post := ts.foldl step p

theorem recalls_step {p : Post} {past : List Event} (hp : p.listener.memory.Recalls past) (t : Turn) :
    (p.step t).listener.memory.Recalls (past ++ t.event?.toList) := by
  cases t with
  | line text => exact Listener.recalls_hear hp p.settings text
  | configure | refill => exact (List.append_nil past).symm ▸ hp

theorem recalls_run (inbox : Inbox) (s : Settings) (ts : List Turn) :
    ((start inbox s).run ts).listener.memory.Recalls (Turn.events ts) := by
  induction ts using List.reverseRecOn with
  | nil => exact .empty
  | append_singleton ts t ih =>
    rw [Turn.events_concat, run, List.foldl_append]
    exact recalls_step ih t

/-- Whatever lines a listener was given, and however the settings and the queue changed between them: the
next line is passed over exactly if its event is watched and the last event of that name before had the same
argument. A line that is no event or is passed over changes nothing, and any other line asks for just the
effect that its event has under the settings that hold then. -/
theorem run_repeats (inbox : Inbox) (s : Settings) (ts : List Turn) (text : List Char) :
    let p := (start inbox s).run ts
    let heard := p.listener.hear p.settings text
    (p.listener.suppresses text = true ↔
        ∃ e, Event.parse? text = some e ∧ e.Repeats (Turn.events ts)) ∧
      (Event.parse? text = none ∨ p.listener.suppresses text = true → heard = (none, p.listener)) ∧
      ∀ e, Event.parse? text = some e → p.listener.suppresses text = false →
        (p.settings.effectFor e.name e.argument = none → heard.1 = none ∧ heard.2.inbox = p.listener.inbox) ∧
        ∀ n, p.settings.effectFor e.name e.argument = some n →
          heard.1 = some (p.listener.inbox.request n).1 ∧ heard.2.inbox = (p.listener.inbox.request n).2 := by
  intro p heard
  have hp : p.listener.memory.Recalls (Turn.events ts) := recalls_run inbox s ts
  refine ⟨Listener.suppresses_iff hp, fun h => ?_, fun e he hnew => ?_⟩
  · rcases h with h | h
    · exact Listener.hear_of_parse?_eq_none h
    · exact Listener.hear_of_suppresses h
  · obtain ⟨hreceipt, hinbox⟩ := Listener.hear_of_new (s := p.settings) he hnew
    refine ⟨fun hn => ?_, fun n hn => ?_⟩
    · rw [hn] at hreceipt hinbox
      exact ⟨hreceipt, hinbox⟩
    · rw [hn] at hreceipt hinbox
      exact ⟨hreceipt, hinbox⟩

/-- The first line fills the queue, so the second one is dropped; it is remembered all the same, also when it
comes again after another event and under other settings. -/
theorem run_repeats_when_full :
    let s : Settings := { Settings.default with defaultEffect := some 3 }
    let ts := [Turn.line "workspace>>1".toList, .line "workspace>>2".toList, .line "openwindow>>1".toList,
      .configure { s with defaultEffect := some 5 }]
    let p := (start ⟨1, [], false, 0, 0⟩ s).run ts
    p.listener.suppresses "workspace>>2".toList = true ∧
      p.listener.hear p.settings "workspace>>2".toList = (none, p.listener) ∧
      p.listener.suppresses "workspace>>1".toList = false ∧
      (p.listener.hear p.settings "workspace>>1".toList).1 = some .dropped := by
  intro s ts p
  obtain ⟨hsecond, hquiet, -⟩ := run_repeats ⟨1, [], false, 0, 0⟩ s ts "workspace>>2".toList
  obtain ⟨-, -, hasks⟩ := run_repeats ⟨1, [], false, 0, 0⟩ s ts "workspace>>1".toList
  have hevents : Turn.events ts = [⟨"workspace", "1"⟩] ++ ⟨"workspace", "2"⟩ :: [⟨"openwindow", "1"⟩] := by decide
  have hagain : p.listener.suppresses "workspace>>2".toList = true :=
    hsecond.2 ⟨⟨"workspace", "2"⟩, by decide, by decide, _, _, hevents, by decide⟩
  have hnew : p.listener.suppresses "workspace>>1".toList = false := by decide
  obtain ⟨hdropped, -⟩ := (hasks ⟨"workspace", "1"⟩ (by decide) hnew).2 5 rfl
  exact ⟨hagain, hquiet (.inr hagain), hnew, hdropped⟩

end Post

end Haptics
