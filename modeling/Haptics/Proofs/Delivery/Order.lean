import Haptics.Proofs.Delivery.Ledger
import Haptics.Proofs.Delivery.Plays
import Mathlib.Data.List.Basic

/-!
# Order

Effects are taken in the order in which they were accepted, one at a time and each at most once, and the
devices are asked to play them in this order: once or, if the device was lost, twice in a row. Only an
effect for which there was no device is left out (`Course.run_in_order`).
-/

namespace Haptics

open Courier (Stage Progress)

variable {W D : Type}

namespace Course

/-- The plays that devices were asked for, in order. -/
def plays (c : Course (Logged W D) (Numbered D)) : List Effect :=
  c.world.errands.filterMap Errand.effect? ++ c.deliveries.flatMap (·.unanswered)

/-- Only the last delivery can have a play that is not answered. -/
theorem flatMap_plays {env : Devices W D} {k₀ k : Courier (Numbered D)} {j₀ j : Logged W D}
    {ss : List (Delivery (Logged W D) (Numbered D))} (h : Journey env.logged k₀ j₀ ss k j) :
    ss.flatMap (·.errands.filterMap Errand.effect?) ++ ss.flatMap (·.unanswered) = ss.flatMap (·.plays) := by
  cases h with
  | start => rfl
  | @served past s _ _ hpast _ =>
    have hnil : past.flatMap (·.unanswered) = [] :=
      List.flatMap_eq_nil_iff.2 fun s hs => Delivery.unanswered_of_hasEnded (hpast s hs)
    have hplays : past.flatMap (·.plays) = past.flatMap (·.errands.filterMap Errand.effect?) :=
      List.flatMap_congr fun s hs => by
        rw [Delivery.plays, Delivery.unanswered_of_hasEnded (hpast s hs), List.append_nil]
    rw [List.flatMap_append, List.flatMap_append, List.flatMap_append, hnil, hplays]
    simp [Delivery.plays]

theorem plays_eq {env : Devices W D} {k₀ : Courier (Numbered D)} {w : W}
    {c : Course (Logged W D) (Numbered D)} (h : c.Paced env.logged k₀ (Logged.start w))
    (ha : (k₀.standing (Logged.start w)).Sound) : c.plays = c.deliveries.flatMap (·.plays) := by
  obtain ⟨k, j, hj, -⟩ := Pace.journey h
  obtain ⟨-, l, hl, hclose⟩ := h.recorded ha
  have hnil : (l.map (·.errand)).filterMap Errand.effect? = [] := by
    rw [List.filterMap_eq_nil_iff]
    intro x hx
    obtain ⟨y, hy, rfl⟩ := List.mem_map.1 hx
    obtain ⟨n, r, hn⟩ := hclose y hy
    rw [hn]; rfl
  have hlog : c.world.errands.filterMap Errand.effect? =
      c.deliveries.flatMap (·.errands.filterMap Errand.effect?) := by
    rw [Logged.errands, hl, List.map_append, List.filterMap_append, hnil, List.append_nil,
      show (Logged.start w : Logged W D).lines = [] from rfl, List.nil_append, List.map_flatMap,
      List.filterMap_flatMap]
    rfl
  rw [plays, hlog, flatMap_plays hj]

/-- The first plays of the deliveries are of the effects that were not missed. -/
theorem flatMap_take_one {ss : List (Delivery (Logged W D) (Numbered D))}
    (h : ∀ s ∈ ss, s.standing.PlaysFit s.errands s.effect s.plays) :
    ss.flatMap (·.plays.take 1) = (ss.filter (!·.isMissed)).map (·.effect) := by
  induction ss with
  | nil => rfl
  | cons s ss ih =>
    rw [List.flatMap_cons, ih fun s' hs' => h s' (List.mem_cons_of_mem _ hs')]
    rcases h s List.mem_cons_self with ⟨hm, hp⟩ | ⟨hm, hp | hp⟩ <;>
      simp [Delivery.isMissed, hm, hp]

/-- After any run, the effects that were taken are the first of those that were accepted, in order, and at
most one of them is being delivered. The devices have been asked to play the effects that were taken in
this order, each once or twice in a row; those that they were never asked for are those for which no device
was held and none could be found and opened. -/
theorem run_in_order (env : Devices W D) {capacity : Nat} {preferred : Option Connection}
    {device : Option D} {d : Depot (Numbered D)}
    (hd : Depot.ofCapacity? capacity preferred (device.map (Numbered.mk 0)) = some d) (w : W)
    (acts : List Act) :
    let c := (start d (Logged.start w)).run env.logged acts
    c.started <+: c.accepted ∧
      (c.deliveries.filter (·.isUnderway)).map (·.effect) = c.depot.inFlight?.toList ∧
      c.plays = c.deliveries.flatMap (·.plays) ∧
      (∀ s ∈ c.deliveries, s.plays = [] ∨ s.plays = [s.effect] ∨ s.plays = [s.effect, s.effect]) ∧
      c.deliveries.flatMap (·.plays.take 1) = (c.deliveries.filter (!·.isMissed)).map (·.effect) := by
  intro c
  obtain ⟨hl, hpend, -⟩ := Ledger.of_ofCapacity? hd
  have hpace := run_pace env.logged (Logged.start w) hpend acts
  have hsound := Courier.standing_new preferred device w
  have hfit : ∀ s ∈ c.deliveries, s.standing.PlaysFit s.errands s.effect s.plays :=
    fun s hs => ((hpace.recorded hsound).1 s hs).playsFit
  refine ⟨(run_orderly _ hl _ acts).started_isPrefix, hpace.filter_isUnderway, plays_eq hpace hsound,
    fun s hs => ?_, flatMap_take_one hfit⟩
  rcases hfit s hs with ⟨-, hp⟩ | ⟨-, hp⟩
  · exact .inl hp
  · exact .inr hp

/-- The first device is lost and another one is found; a third request finds no room. -/
theorem run_in_order_replaced :
    let acts := [Act.request 3, .start, .look, .take, .request 4, .request 5, .proceed, .proceed, .proceed,
      .look, .take]
    ∃ d, Depot.ofCapacity? 1 none (some ⟨0, ()⟩) = some d ∧
      let c := (start d (Logged.start [.error .notOpen])).run Devices.scripted.logged acts
      c.started = [⟨3⟩, ⟨4⟩] ∧ c.plays = [⟨3⟩, ⟨3⟩, ⟨4⟩] ∧ c.started <+: c.accepted ∧
        c.plays = c.deliveries.flatMap (·.plays) ∧
        c.deliveries.flatMap (·.plays.take 1) = (c.deliveries.filter (!·.isMissed)).map (·.effect) := by
  intro acts
  have hd : Depot.ofCapacity? 1 none (Option.map (Numbered.mk 0) (some ())) =
    some ⟨⟨1, [], false, 0, 0⟩, ⟨0, 0⟩, .pending ⟨none, some ⟨0, ()⟩, 0⟩, false, false, 0⟩ := rfl
  obtain ⟨hp, -, hplays, -, hfirst⟩ := run_in_order Devices.scripted hd [.error .notOpen] acts
  exact ⟨_, hd, rfl, rfl, hp, hplays, hfirst⟩

end Course

end Haptics
