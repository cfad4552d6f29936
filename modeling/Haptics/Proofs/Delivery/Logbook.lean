import Haptics.Proofs.Delivery.Itinerary
import Haptics.Proofs.Delivery.Journey

/-!
# Deliveries in the log

Each delivery of a course over logged devices has its own lines of the log, which follow an itinerary
(`Delivery.Recorded`). Besides the lines of the deliveries, the log of a course has at most one more, of
the device being closed at the end (`Course.Paced.recorded`).
-/

namespace Haptics

open Courier (Stage Progress)

variable {W D : Type}

theorem Served.itinerary {env : Devices W D} {e : Effect} {k₀ k : Courier (Numbered D)}
    {j₀ j : Logged W D} {p : Progress} (h : Served env.logged e k₀ j₀ p k j) :
    ∃ l, j.lines = j₀.lines ++ l ∧ k.preferred = k₀.preferred ∧
      Itinerary k₀.preferred e (k₀.standing j₀) (l.map (·.errand)) p (k.standing j) := by
  induction h with
  | begin =>
    refine ⟨[], by simp, rfl, ?_⟩
    rw [← k₀.begin_standing j₀]
    exact .begin
  | stage _ hp ih =>
    obtain ⟨l, hl, hk, hi⟩ := ih
    rw [← hk] at hi
    obtain ⟨l', hl', hk', hi'⟩ := hi.advance hp
    rw [hk] at hi' hk'
    exact ⟨l ++ l', by rw [hl', hl, List.append_assoc], hk', by rw [List.map_append]; exact hi'⟩

namespace Delivery

variable (s : Delivery (Logged W D) (Numbered D))

/-- The lines that the delivery has added to the log. -/
def lines : List (Line W D) := s.after.lines.drop s.before.lines.length

def errands : List Errand := s.lines.map (·.errand)

/-- What the courier held when it was given the effect. -/
def standing : Standing := s.courier.standing s.before

/-- The delivery is in the log, and its searches are limited to `c`. -/
structure Recorded (c : Option Connection) : Prop where
  lines_eq : s.after.lines = s.before.lines ++ s.lines
  sound : s.standing.Sound
  itinerary : ∃ b, Itinerary c s.effect s.standing s.errands s.status.progress b

end Delivery

/-- The log of a journey consists of the lines of its deliveries. -/
theorem Journey.recorded {env : Devices W D} {k₀ k : Courier (Numbered D)} {j₀ j : Logged W D}
    {ss : List (Delivery (Logged W D) (Numbered D))} (h : Journey env.logged k₀ j₀ ss k j)
    (ha : (k₀.standing j₀).Sound) :
    (∀ s ∈ ss, s.Recorded k₀.preferred) ∧ j.lines = j₀.lines ++ ss.flatMap (·.lines) ∧
      k.preferred = k₀.preferred ∧ (k.standing j).Sound := by
  induction h with
  | start => exact ⟨by simp, by simp, rfl, ha⟩
  | @served past s k _ _ hs ih =>
    obtain ⟨hrec, hlines, hpref, hsound⟩ := ih
    obtain ⟨l, hl, hk, hi⟩ := hs.itinerary
    -- the log only grows, so the lines of a delivery are what comes behind those before it
    have hsl : s.lines = l := by rw [Delivery.lines, hl, List.drop_left]
    refine ⟨fun s' hs' => ?_, ?_, hk.trans hpref, hi.sound hsound⟩
    · rcases List.mem_append.1 hs' with hs' | hs'
      · exact hrec s' hs'
      · obtain rfl := List.mem_singleton.1 hs'
        refine ⟨by rw [hsl, hl], hsound, k.standing s'.after, ?_⟩
        rw [← hpref, Delivery.errands, hsl]
        exact hi
    · rw [hl, hlines, List.flatMap_append, List.append_assoc]
      simp [hsl]

namespace Course

variable {env : Devices W D} {k₀ k : Courier (Numbered D)} {j₀ : Logged W D}
  {c : Course (Logged W D) (Numbered D)}

/-- As long as there is a courier, it has come to where the journey has. -/
theorem Paced.journey {env : Devices W D} {k₀ k : Courier D} {w₀ : W} {c : Course W D}
    (h : c.Paced env k₀ w₀) (hk : c.depot.phase.courier? = some k) :
    Journey env k₀ w₀ c.deliveries k c.world := by
  unfold Paced at h
  generalize c.depot.phase = p, c.deliveries = ss, c.world = w at h hk
  cases h with
  | @resting p _ k' _ hp hj =>
    have hk' : p.courier? = some k' := by
      rcases hp with hp | rfl
      · exact Phase.courier?_of_resting? hp
      · rfl
    obtain rfl : k = k' := Option.some.inj (hk.symm.trans hk')
    exact hj
  | @delivering past s k' _ _ hj =>
    obtain rfl : k' = k := Option.some.inj hk
    exact hj
  | crashed => cases hk
  | gone => cases hk

/-- The log of a course consists of the lines of its deliveries, and of a closing at the end. -/
theorem Paced.recorded (h : c.Paced env.logged k₀ j₀) (ha : (k₀.standing j₀).Sound) :
    (∀ s ∈ c.deliveries, s.Recorded k₀.preferred) ∧
      ∃ l, c.world.lines = j₀.lines ++ c.deliveries.flatMap (·.lines) ++ l ∧
        ∀ x ∈ l, ∃ n r, x.errand = .close n r := by
  obtain ⟨k, j, hj, hw⟩ := Pace.journey h
  obtain ⟨hrec, hlines, -⟩ := hj.recorded ha
  refine ⟨hrec, ?_⟩
  rcases hw with hw | hw <;> rw [hw]
  · exact ⟨[], by simpa using hlines, by simp⟩
  · unfold Courier.release
    split
    · exact ⟨[], by simpa using hlines, by simp⟩
    · rename_i d _
      refine ⟨_, by rw [← hlines]; rfl, ?_⟩
      simp

end Course

end Haptics
