import Haptics.Delivery.Depot
import Haptics.Proofs.Delivery.Log
import Mathlib.Data.List.ModifyLast

/-!
# Courses of a depot

A course is a depot in its world with what has happened to it: the answers to requests, and the
deliveries so far. `Course.run` lets acts happen one after the other, whoever they are by, so what holds
after every run holds however producers, the consumer and a stop meet. `Course.Move` lists what one act
can do, and `run_induction` turns what every move keeps into what every run keeps.
-/

namespace Haptics

open Courier (Stage Progress)

/-- Devices that are found by every search and answer plays from a list. -/
def Devices.scripted : Devices (List (Except DeviceError Outcome)) Unit where
  find _ w := (some (), w)
  acquire d w := (.ok (), d, w)
  play d _ w := (w.head?.getD (.ok .written), d, w.tail)
  close d w := (.ok (), d, w)

/-- An act of a producer, of the consumer, or of whoever starts and stops a depot. -/
inductive Act where
  | request (number : Int64)
  | start
  | look
  | take
  | proceed
  | crash
  | leave
  | signal
  | join
  | abandon
  deriving DecidableEq

def Depot.act {W D : Type} (env : Devices W D) (d : Depot D) (w : W) : Act → Depot D × W
  | .request n => ((d.request n).2, w)
  | .start => (d.start, w)
  | .look => (d.look, w)
  | .take => (d.take, w)
  | .proceed => d.proceed env w
  | .crash => (d.crash, w)
  | .leave => (d.leave, w)
  | .signal => (d.signal, w)
  | .join => d.join env w
  | .abandon => (d.abandon, w)

namespace Phase

variable {D : Type}

/-- The courier between two deliveries, until the consumer ends. -/
def resting? : Phase D → Option (Courier D)
  | pending k | idle k | waiting k | leaving k => some k
  | delivering .. | ended _ | gone => none

/-- The courier, as long as there is one. -/
def courier? : Phase D → Option (Courier D)
  | pending k | idle k | waiting k | leaving k | delivering k _ _ => some k
  | ended k => k
  | gone => none

theorem courier?_of_resting? {p : Phase D} {k : Courier D} (h : p.resting? = some k) :
    p.courier? = some k := by
  cases p <;> first | exact h | cases h

end Phase

inductive Delivery.Status where
  | underway (stage : Stage)
  /-- The consumer was brought down at this stage. -/
  | crashed (stage : Stage)
  | ended (result : Except DeviceError Outcome)

/-- The delivery of one effect in a course. -/
structure Delivery (W D : Type) where
  effect : Effect
  /-- The courier when it was given the effect. -/
  courier : Courier D
  /-- The world when the effect was taken. -/
  before : W
  /-- The world after the last stage that has ended. -/
  after : W
  status : Delivery.Status

namespace Delivery

variable {W D : Type}

/-- How far a delivery has come, also one that will come no further. -/
def Status.progress : Status → Progress
  | underway stage | crashed stage => .next stage
  | ended r => .ended r

def reached (s : Delivery W D) (p : Progress) (w : W) : Delivery W D :=
  { s with
    after := w
    status := match p with
      | .next stage => .underway stage
      | .ended r => .ended r }

def crash (s : Delivery W D) : Delivery W D :=
  { s with
    status := match s.status with
      | .underway stage => .crashed stage
      | status => status }

def isUnderway (s : Delivery W D) : Bool :=
  match s.status with
  | .underway _ => true
  | _ => false

def hasCrashed (s : Delivery W D) : Bool :=
  match s.status with
  | .crashed _ => true
  | _ => false

def hasEnded (s : Delivery W D) : Bool :=
  match s.status with
  | .ended _ => true
  | _ => false

def isDelivered (s : Delivery W D) : Bool :=
  match s.status with
  | .ended (.ok _) => true
  | _ => false

def isAbandoned (s : Delivery W D) : Bool :=
  match s.status with
  | .ended (.error _) => true
  | _ => false

end Delivery

/-- A depot in its world, with its history. -/
structure Course (W D : Type) where
  depot : Depot D
  world : W
  /-- The numbers asked for and what became of them, in order. -/
  answers : List (Int64 × Receipt)
  /-- The deliveries of the effects that were taken, in order. -/
  deliveries : List (Delivery W D)

namespace Course

variable {W D : Type}

def start (d : Depot D) (w : W) : Course W D := ⟨d, w, [], []⟩

def answered (c : Course W D) : Act → List (Int64 × Receipt)
  | .request n => c.answers ++ [(n, (c.depot.request n).1)]
  | _ => c.answers

def recorded (env : Devices W D) (c : Course W D) : Act → List (Delivery W D)
  | .take =>
    match c.depot.phase, c.depot.inbox.waiting with
    | .waiting k, e :: _ => c.deliveries ++ [⟨e, k, c.world, c.world, .underway k.begin⟩]
    | _, _ => c.deliveries
  | .proceed =>
    match c.depot.phase with
    | .delivering k e stage =>
      match k.proceed env stage e c.world with
      | (p, _, w) => c.deliveries.modifyLast (·.reached p w)
    | _ => c.deliveries
  | .crash =>
    match c.depot.phase with
    | .delivering .. => c.deliveries.modifyLast (·.crash)
    | _ => c.deliveries
  | _ => c.deliveries

def step (env : Devices W D) (c : Course W D) (a : Act) : Course W D :=
  match c.depot.act env c.world a with
  | (d, w) => ⟨d, w, c.answered a, c.recorded env a⟩

def run (env : Devices W D) (c : Course W D) (acts : List Act) : Course W D := acts.foldl (step env) c

/-- What an act can do in a course. -/
inductive Move (env : Devices W D) (c : Course W D) : Course W D → Prop where
  | nothing : Move env c c
  | request (n : Int64) :
    Move env c { c with
      depot := (c.depot.request n).2
      answers := c.answers ++ [(n, (c.depot.request n).1)] }
  /-- Only the phase between two deliveries and the signal to stop change. -/
  | quiet {d : Depot D} (hi : d.inbox = c.depot.inbox) (ht : d.tally = c.depot.tally)
      (hd : d.discarded = c.depot.discarded)
      (hp : d.phase = c.depot.phase ∨
        ∃ k, c.depot.phase.resting? = some k ∧ d.phase.resting? = some k) :
    Move env c { c with depot := d }
  | take {k : Courier D} {e : Effect} {rest : List Effect} (hp : c.depot.phase = .waiting k)
      (hw : c.depot.inbox.waiting = e :: rest) :
    Move env c { c with
      depot := { c.depot with
        inbox := { c.depot.inbox with waiting := rest }
        phase := .delivering k e k.begin }
      deliveries := c.deliveries ++ [⟨e, k, c.world, c.world, .underway k.begin⟩] }
  | proceed {k k' : Courier D} {e : Effect} {stage : Stage} {p : Progress} {w : W}
      (hp : c.depot.phase = .delivering k e stage) (h : k.proceed env stage e c.world = (p, k', w)) :
    Move env c { c with
      depot := c.depot.reached e p k'
      world := w
      deliveries := c.deliveries.modifyLast (·.reached p w) }
  | crash {k : Courier D} {e : Effect} {stage : Stage} (hp : c.depot.phase = .delivering k e stage) :
    Move env c { c with
      depot := { c.depot.closeInbox with phase := .ended none }
      deliveries := c.deliveries.modifyLast (·.crash) }
  /-- The inbox is closed; the courier is kept for later, given up, or sent home. -/
  | close {d : Depot D} {k : Courier D} {w : W} (hp : c.depot.phase.resting? = some k)
      (hi : d.inbox = c.depot.closeInbox.inbox) (ht : d.tally = c.depot.tally)
      (hd : d.discarded = c.depot.closeInbox.discarded)
      (hq : d.phase = .ended (some k) ∧ w = c.world ∨ d.phase = .gone ∧ w = c.world ∨
        d.phase = .gone ∧ w = k.release env c.world) :
    Move env c { c with depot := d, world := w }
  /-- The inbox was closed before; the courier, if it is left, is sent home. -/
  | release {k : Option (Courier D)} (hp : c.depot.phase = .ended k) :
    Move env c { c with
      depot := { c.depot with phase := .gone }
      world := k.elim c.world fun k => k.release env c.world }

theorem step_move (env : Devices W D) (c : Course W D) (a : Act) : Move env c (c.step env a) := by
  obtain ⟨d, w, answers, deliveries⟩ := c
  cases a with
  | request n => exact .request n
  | start =>
    rcases hp : d.phase with k | _ | _ | _ | _ | _ | _ <;>
      simp only [step, Depot.act, Depot.start, hp, answered, recorded]
    case pending => exact .quiet rfl rfl rfl (.inr ⟨k, by simp only [hp]; rfl, rfl⟩)
    all_goals exact .nothing
  | look =>
    rcases hp : d.phase with _ | k | k | _ | _ | _ | _ <;>
      simp only [step, Depot.act, Depot.look, hp, answered, recorded]
    case idle | waiting =>
      exact .quiet rfl rfl rfl (.inr ⟨k, by simp only [hp]; rfl, by dsimp only; split <;> rfl⟩)
    all_goals exact .nothing
  | take =>
    rcases hp : d.phase with _ | _ | k | _ | _ | _ | _ <;>
      simp only [step, Depot.act, Depot.take, hp, answered, recorded]
    case waiting =>
      rcases hw : d.inbox.waiting with _ | ⟨e, rest⟩
      · exact .nothing
      · exact .take hp hw
    all_goals exact .nothing
  | proceed =>
    rcases hp : d.phase with _ | _ | _ | ⟨k, e, stage⟩ | _ | _ | _ <;>
      simp only [step, Depot.act, Depot.proceed, hp, answered, recorded]
    case delivering => exact .proceed hp rfl
    all_goals exact .nothing
  | crash =>
    rcases hp : d.phase with _ | _ | _ | ⟨k, e, stage⟩ | _ | _ | _ <;>
      simp only [step, Depot.act, Depot.crash, hp, answered, recorded]
    case delivering => exact .crash hp
    all_goals exact .nothing
  | leave =>
    rcases hp : d.phase with _ | _ | _ | _ | k | _ | _ <;>
      simp only [step, Depot.act, Depot.leave, hp, answered, recorded]
    case leaving => exact .close (k := k) (by simp only [hp]; rfl) rfl rfl rfl (.inl ⟨rfl, rfl⟩)
    all_goals exact .nothing
  | signal => exact .quiet rfl rfl rfl (.inl rfl)
  | join =>
    rcases hp : d.phase with k | _ | _ | _ | _ | k | _ <;>
      simp only [step, Depot.act, Depot.join, hp, answered, recorded]
    case pending => exact .close (k := k) (by simp only [hp]; rfl) rfl rfl rfl (.inr (.inr ⟨rfl, rfl⟩))
    case ended =>
      cases k with
      | none => exact Move.release (c := ⟨d, w, answers, deliveries⟩) hp
      | some k => exact Move.release (c := ⟨d, w, answers, deliveries⟩) hp
    all_goals exact .nothing
  | abandon =>
    rcases hp : d.phase with k | _ | _ | _ | _ | _ | _ <;>
      simp only [step, Depot.act, Depot.abandon, hp, answered, recorded]
    case pending => exact .close (k := k) (by simp only [hp]; rfl) rfl rfl rfl (.inr (.inl ⟨rfl, rfl⟩))
    all_goals exact .quiet rfl rfl rfl (.inl rfl)

theorem run_induction {env : Devices W D} {P : Course W D → Prop} {c : Course W D} (hc : P c)
    (h : ∀ c c', P c → Move env c c' → P c') (acts : List Act) : P (c.run env acts) := by
  induction acts generalizing c with
  | nil => exact hc
  | cons a acts ih => exact ih (h c _ hc (step_move env c a))

/-- What no call on the devices breaks holds of the world after every run. -/
theorem run_keeps {env : Devices W D} {P : W → Prop} (h : env.Keeps P) {c : Course W D}
    (hc : P c.world) (acts : List Act) : P (c.run env acts).world := by
  refine run_induction (P := fun c => P c.world) hc (fun c c' hc hm => ?_) acts
  cases hm with
  | nothing | request | quiet | take | crash => exact hc
  | @proceed k k' e stage p w _ hk =>
    have hw := h.proceed k stage e hc
    rw [hk] at hw
    exact hw
  | close _ _ _ _ hq =>
    rcases hq with ⟨-, rfl⟩ | ⟨-, rfl⟩ | ⟨-, rfl⟩
    · exact hc
    · exact hc
    · exact h.release _ hc
  | @release k _ =>
    cases k with
    | none => exact hc
    | some k => exact h.release k hc

end Course

end Haptics
