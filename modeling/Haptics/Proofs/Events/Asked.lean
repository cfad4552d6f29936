import Haptics.Events.Listener

/-!
# What lines ask for

`Memory.asks` is the effect that a line asks for, and `Memory.after` what is remembered after it; neither
depends on the queue. Hearing a row of lines is asking for their effects, one after the other
(`Listener.hearAll_eq`).
-/

namespace Haptics

/-- A line that the listener took, with the settings that held then. -/
structure Heard where
  settings : Settings
  line : Bytes

namespace Heard

def text (h : Heard) : List Char := Text.decodeLossy h.line

theorem map_line_map (s : Settings) (lines : List Bytes) : (lines.map (⟨s, ·⟩)).map Heard.line = lines := by
  rw [List.map_map]
  exact List.map_id _

end Heard

namespace Memory

variable {m : Memory}

def after (line : List Char) (m : Memory) : Memory :=
  match Event.parse? line with
  | none => m
  | some e => (m.observe e).2

/-- The number that a line asks for: that of its event, unless the event is a repeat. -/
def asks (s : Settings) (line : List Char) (m : Memory) : Option Int64 :=
  match Event.parse? line with
  | none => none
  | some e => if (m.observe e).1 then none else s.effectFor e.name e.argument

def afterAll (hs : List Heard) (m : Memory) : Memory := hs.foldl (fun m h => m.after h.text) m

/-- The numbers that a row of lines asks for. The memory is handed on from each line to the next. -/
def asked : List Heard → Memory → List Int64
  | [], _ => []
  | h :: hs, m => (m.asks h.settings h.text).toList ++ asked hs (m.after h.text)

theorem afterAll_append (hs hs' : List Heard) : m.afterAll (hs ++ hs') = (m.afterAll hs).afterAll hs' :=
  List.foldl_append

theorem asked_append (hs hs' : List Heard) :
    asked (hs ++ hs') m = asked hs m ++ asked hs' (m.afterAll hs) := by
  induction hs generalizing m with
  | nil => rfl
  | cons h hs ih =>
    rw [List.cons_append, asked, ih, asked, List.append_assoc]
    rfl

end Memory

namespace Listener

theorem hear_eq (s : Settings) (line : List Char) (l : Listener) :
    (l.hear s line).2 =
      ⟨l.memory.after line, (l.inbox.requestAll (l.memory.asks s line).toList).2⟩ := by
  rcases he : Event.parse? line with _ | e
  · simp only [hear, Memory.after, Memory.asks, he]
    rfl
  rcases ho : l.memory.observe e with ⟨repeats, memory⟩
  cases repeats with
  | true =>
    simp only [hear, Memory.after, Memory.asks, he, ho, ↓reduceIte]
    rfl
  | false =>
    rcases hn : s.effectFor e.name e.argument with _ | n
    · simp only [hear, Memory.after, Memory.asks, he, ho, hn, Bool.false_eq_true, ↓reduceIte]
      rfl
    · simp only [hear, Memory.after, Memory.asks, he, ho, hn, Bool.false_eq_true, ↓reduceIte]
      rfl

end Listener

theorem Inbox.requestAll_append (i : Inbox) (ns ns' : List Int64) :
    (i.requestAll (ns ++ ns')).2 = ((i.requestAll ns).2.requestAll ns').2 := by
  induction ns generalizing i with
  | nil => rfl
  | cons n ns ih => exact ih (i.request n).2

/-- All that hearing lines does: the effects that they ask for are asked for, and the memory goes on. -/
theorem Listener.hearAll_eq (s : Settings) (lines : List Bytes) (l : Listener) :
    l.hearAll s lines =
      ⟨l.memory.afterAll (lines.map (⟨s, ·⟩)),
        (l.inbox.requestAll (Memory.asked (lines.map (⟨s, ·⟩)) l.memory)).2⟩ := by
  induction lines generalizing l with
  | nil => rfl
  | cons line lines ih =>
    have hcons : l.hearAll s (line :: lines) = (l.hear s (Text.decodeLossy line)).2.hearAll s lines := rfl
    rw [hcons, ih, hear_eq, List.map_cons, Memory.asked, Inbox.requestAll_append]
    rfl

end Haptics
