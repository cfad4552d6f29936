import Haptics.Proofs.Delivery.Logbook
import Haptics.Proofs.Delivery.Ledger
import Mathlib.Logic.Function.Iterate

/-!
# What one dispatch asks of the devices

A dispatch is all stages of one delivery, of which there are at most three (`Depot.dispatch`). In every
state that a depot can come to, its errands follow one of the routes (`Course.dispatch_route`).
-/

namespace Haptics

open Courier (Stage Progress)

/-- How many stages there can be from this one on. -/
def Courier.Stage.left : Stage → Nat
  | first => 3
  | search => 2
  | last => 1

theorem Courier.left_lt_of_proceed {W D : Type} {env : Devices W D} {k k' : Courier D} {e : Effect}
    {w w' : W} {stage stage' : Stage} (h : k.proceed env stage e w = (.next stage', k', w')) :
    stage'.left < stage.left := by
  cases stage with
  | search =>
    rw [proceed_search] at h
    obtain ⟨hp, -⟩ := Prod.mk.inj h
    rcases hr : (k.replace env w).1 with _ | _ <;> rw [hr] at hp <;> cases hp
    decide
  | first =>
    rw [proceed_send (by decide)] at h
    obtain ⟨hp, -⟩ := Prod.mk.inj h
    rcases hr : (k.send env e w).1 with err | _ <;> rw [hr] at hp
    · cases hl : err.losesDevice <;> simp only [Stage.after, hl] at hp <;> cases hp
      decide
    · cases hp
  | last =>
    rw [proceed_send (by decide)] at h
    obtain ⟨hp, -⟩ := Prod.mk.inj h
    cases hp

namespace Depot

variable {W D : Type}

/-- The depot after all stages of the delivery of `e`. -/
def dispatch (env : Devices W D) (d : Depot D) (k : Courier D) (e : Effect) (w : W) : Depot D × W :=
  (fun x : Depot D × W => x.1.proceed env x.2)^[3] ({ d with phase := .delivering k e k.begin }, w)

theorem iterate_proceed_idle (env : Devices W D) {d : Depot D} {k : Courier D} (hp : d.phase = .idle k)
    (w : W) (n : Nat) : (fun x : Depot D × W => x.1.proceed env x.2)^[n] (d, w) = (d, w) := by
  refine Function.iterate_fixed ?_ n
  simp only [proceed, hp]

/-- A delivery ends after as many stages as are left. -/
theorem iterate_proceed {env : Devices W D} (d : Depot D) {e : Effect} {k₀ k : Courier D} {w₀ w : W}
    {stage : Stage} {n : Nat} (h : Served env e k₀ w₀ (.next stage) k w) (hn : stage.left ≤ n) :
    ∃ r k' w', Served env e k₀ w₀ (.ended r) k' w' ∧
      (fun x : Depot D × W => x.1.proceed env x.2)^[n] ({ d with phase := .delivering k e stage }, w) =
        ({ d with phase := .idle k', tally := d.tally.count r }, w') := by
  -- each stage that does not end the delivery leaves fewer of them
  induction n generalizing stage k w with
  | zero => cases stage <;> cases hn
  | succ n ih =>
    rw [Function.iterate_succ_apply]
    rcases hp : k.proceed env stage e w with ⟨stage' | r, k', w'⟩
    · obtain ⟨r, k'', w'', hs, heq⟩ := ih (h.stage hp) (by have := Courier.left_lt_of_proceed hp; omega)
      refine ⟨r, k'', w'', hs, ?_⟩
      simp only [proceed, hp, reached]
      exact heq
    · refine ⟨r, k', w', h.stage hp, ?_⟩
      simp only [proceed, hp, reached]
      exact iterate_proceed_idle env rfl w' n

theorem dispatch_served (env : Devices W D) (d : Depot D) (k : Courier D) (e : Effect) (w : W) :
    ∃ r k' w', Served env e k w (.ended r) k' w' ∧
      d.dispatch env k e w = ({ d with phase := .idle k', tally := d.tally.count r }, w') :=
  iterate_proceed d .begin (by cases k.begin <;> decide)

end Depot

namespace Route

variable {c : Option Connection} {e : Effect} {a : Standing} {l : List Errand}
  {r : Except DeviceError Outcome}

theorem length_plays_le (h : Route c e a l r) : (l.filterMap Errand.effect?).length ≤ 2 := by
  cases h with
  | played | kept | dropped => simp [Errand.effect?, List.filterMap_cons]
  | retried hl hr => cases hl <;> cases hr <;> simp [Errand.effect?, List.filterMap_cons]

theorem countP_isFind_le (h : Route c e a l r) : l.countP Errand.isFind ≤ 1 := by
  cases h with
  | played | kept | dropped => simp [Errand.isFind]
  | retried hl hr => cases hl <;> cases hr <;> simp [Errand.isFind, List.countP_cons]

theorem countP_isAcquire_le (h : Route c e a l r) : l.countP Errand.isAcquire ≤ 1 := by
  cases h with
  | played | kept | dropped => simp [Errand.isAcquire]
  | retried hl hr => cases hl <;> cases hr <;> simp [Errand.isAcquire, List.countP_cons]

/-- An effect was delivered if the last play of it succeeded. -/
theorem isOk_iff (h : Route c e a l r) :
    (∃ o, r = .ok o) ↔ ∃ o, (l.filterMap Errand.outcome?).getLast? = some (.ok o) := by
  cases h with
  | played | kept | dropped => simp [Errand.outcome?, List.filterMap_cons]
  | retried hl hr => cases hl <;> cases hr <;> simp [Errand.outcome?, List.filterMap_cons]

end Route

namespace Course

variable {W D : Type}

/-- A dispatch in any state that a depot can come to follows one of the routes, so it makes at most two
plays, one search and one opening. Its effect counts as delivered if the last play of it succeeded, and as
abandoned otherwise. -/
theorem dispatch_route (env : Devices W D) {capacity : Nat} {preferred : Option Connection}
    {device : Option D} {d : Depot (Numbered D)}
    (hd : Depot.ofCapacity? capacity preferred (device.map (Numbered.mk 0)) = some d) (w : W)
    (acts : List Act) {k : Courier (Numbered D)} (e : Effect)
    (hk : ((start d (Logged.start w)).run env.logged acts).depot.phase.courier? = some k) :
    let c := (start d (Logged.start w)).run env.logged acts
    ∃ l r k' j,
      c.depot.dispatch env.logged k e c.world =
        ({ c.depot with phase := .idle k', tally := c.depot.tally.count r }, j) ∧
      j.errands = c.world.errands ++ l ∧ Route preferred e (k.standing c.world) l r ∧
      (l.filterMap Errand.effect?).length ≤ 2 ∧ l.countP Errand.isFind ≤ 1 ∧
      l.countP Errand.isAcquire ≤ 1 ∧
      ((∃ o, (l.filterMap Errand.outcome?).getLast? = some (.ok o)) ∧
          c.depot.tally.count r = { c.depot.tally with delivered := c.depot.tally.delivered + 1 } ∨
        (¬ ∃ o, (l.filterMap Errand.outcome?).getLast? = some (.ok o)) ∧
          c.depot.tally.count r = { c.depot.tally with abandoned := c.depot.tally.abandoned + 1 }) := by
  intro c
  obtain ⟨-, hpend, -⟩ := Ledger.of_ofCapacity? hd
  have hpace := run_pace env.logged (Logged.start w) hpend acts
  obtain ⟨-, -, hpref, hsound⟩ := (hpace.journey hk).recorded (Courier.standing_new preferred device w)
  obtain ⟨r, k', j, hs, heq⟩ := Depot.dispatch_served env.logged c.depot k e c.world
  obtain ⟨l, hl, -, hi⟩ := hs.itinerary
  have hroute := hi.ended hsound
  rw [hpref] at hroute
  refine ⟨_, r, k', j, heq, ?_, hroute, hroute.length_plays_le, hroute.countP_isFind_le,
    hroute.countP_isAcquire_le, ?_⟩
  · rw [Logged.errands, hl, List.map_append]; rfl
  · rw [← hroute.isOk_iff]
    cases r with
    | ok o => exact .inl ⟨⟨o, rfl⟩, rfl⟩
    | error err => exact .inr ⟨fun ⟨_, ho⟩ => (by cases ho), rfl⟩

/-- The second transport failure in a row costs the device, and nothing is looked for. -/
theorem dispatch_route_dropped :
    let stall := DeviceError.transport (.other "stall")
    let acts := [Act.request 3, .start, .look, .take, .proceed]
    ∃ d k, Depot.ofCapacity? 1 none (some ⟨0, ()⟩) = some d ∧
      let c := (start d (Logged.start [.error stall, .error stall])).run Devices.scripted.logged acts
      c.depot.phase.courier? = some k ∧
      (c.depot.dispatch Devices.scripted.logged k ⟨7⟩ c.world).2.errands =
        [.play 0 ⟨3⟩ (.error stall), .play 0 ⟨7⟩ (.error stall), .close 0 (.ok ())] ∧
      (c.depot.dispatch Devices.scripted.logged k ⟨7⟩ c.world).1.tally = ⟨0, 2⟩ ∧
      ∃ l r, (c.depot.dispatch Devices.scripted.logged k ⟨7⟩ c.world).2.errands = c.world.errands ++ l ∧
        Route none ⟨7⟩ (k.standing c.world) l r := by
  intro stall acts
  have hd : Depot.ofCapacity? 1 none (Option.map (Numbered.mk 0) (some ())) =
    some ⟨⟨1, [], false, 0, 0⟩, ⟨0, 0⟩, .pending ⟨none, some ⟨0, ()⟩, 0⟩, false, false, 0⟩ := rfl
  obtain ⟨l, r, k', j, heq, hl, hroute, -⟩ := dispatch_route Devices.scripted hd
    [.error stall, .error stall] acts (k := ⟨none, some ⟨0, ()⟩, 1⟩) ⟨7⟩ rfl
  exact ⟨_, _, hd, rfl, rfl, rfl, l, r, by rw [heq]; exact hl, hroute⟩

end Course

end Haptics
