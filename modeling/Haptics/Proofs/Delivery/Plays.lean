import Haptics.Proofs.Delivery.Logbook

/-!
# The plays of one delivery

A delivery asks devices once or twice to play its effect, and never if there was no device
(`Delivery.Recorded.playsFit`). A second play follows the loss of the first device and the opening of
another one (`Delivery.Recorded.second_play`).
-/

namespace Haptics

open Courier (Stage Progress)

variable {W D : Type}

/-- Whether no device was held before these errands and none was found and opened by them. -/
def Standing.misses (a : Standing) (l : List Errand) : Bool := a.held.isNone && !l.any Errand.isOpening

/-- An effect for which there was no device is not played, any other once or twice. -/
def Standing.PlaysFit (a : Standing) (l : List Errand) (e : Effect) (plays : List Effect) : Prop :=
  a.misses l = true ∧ plays = [] ∨ a.misses l = false ∧ (plays = [e] ∨ plays = [e, e])

section
variable {c : Option Connection} {e : Effect} {a : Standing} {l : List Errand}
  {r : Except DeviceError Outcome}

theorem Standing.misses_of_held {n : Nat} (h : a.held = some n) (l : List Errand) : a.misses l = false := by
  simp [misses, h]

theorem Standing.misses_append_opening (a : Standing) (l : List Errand) (n : Nat) :
    a.misses (l ++ [.find c (some n), .acquire n (.ok ())]) = false := by
  simp [misses, Errand.isOpening]

theorem Lead.playsFit (h : Lead e a l) : a.PlaysFit l e (l.filterMap Errand.effect?) := by
  cases h with
  | unheld h => exact .inl ⟨by simp [Standing.misses, h], rfl⟩
  | lost h => exact .inr ⟨a.misses_of_held h _, .inl rfl⟩

/-- The device that was found may still have to answer the play. -/
theorem Lead.playsFit_opened {n : Nat} (h : Lead e a l) :
    a.PlaysFit (l ++ [.find c (some n), .acquire n (.ok ())]) e
      (List.filterMap Errand.effect? (l ++ [.find c (some n), .acquire n (.ok ())]) ++ [e]) := by
  refine .inr ⟨a.misses_append_opening l n, ?_⟩
  cases h with
  | unheld => exact .inl rfl
  | lost => exact .inr rfl

theorem Route.playsFit (h : Route c e a l r) : a.PlaysFit l e (l.filterMap Errand.effect?) := by
  cases h with
  | played h | kept h | dropped h => exact .inr ⟨a.misses_of_held h _, .inl rfl⟩
  | retried hl hr =>
    cases hl with
    | unheld h =>
      cases hr with
      | missing | refused => exact .inl ⟨by simp [Standing.misses, h, Errand.isOpening], rfl⟩
      | played | kept | lost => exact .inr ⟨by simp [Standing.misses, Errand.isOpening], .inl rfl⟩
    | lost h =>
      refine .inr ⟨a.misses_of_held h _, ?_⟩
      cases hr with
      | missing | refused => exact .inl rfl
      | played | kept | lost => exact .inr rfl

end

namespace Delivery

/-- The play that a device has been asked for and has not answered. -/
def unanswered (s : Delivery W D) : List Effect :=
  match s.status with
  | .underway .search | .crashed .search | .ended _ => []
  | .underway _ | .crashed _ => [s.effect]

theorem unanswered_of_hasEnded {s : Delivery W D} (h : s.hasEnded = true) : s.unanswered = [] := by
  unfold hasEnded at h
  unfold unanswered
  cases hs : s.status <;> simp_all

variable (s : Delivery (Logged W D) (Numbered D))

/-- The plays that devices were asked for. -/
def plays : List Effect := s.errands.filterMap Errand.effect? ++ s.unanswered

theorem plays_crash : s.crash.plays = s.plays := by
  have hu : s.crash.unanswered = s.unanswered := by
    cases hs : s.status with
    | underway stage => cases stage <;> simp [crash, unanswered, hs]
    | crashed | ended => simp [crash, unanswered, hs]
  rw [plays, hu]
  rfl

/-- Whether no device was held and none could be found and opened. -/
def isMissed : Bool := s.standing.misses s.errands

variable {s} {c : Option Connection}

theorem Recorded.playsFit (h : s.Recorded c) : s.standing.PlaysFit s.errands s.effect s.plays := by
  obtain ⟨b, hi⟩ := h.itinerary
  have hstage : ∀ stage, s.status.progress = .next stage →
      s.unanswered = (if stage = .search then [] else [s.effect]) →
      s.standing.PlaysFit s.errands s.effect s.plays := by
    intro stage hp hu
    rw [hp] at hi
    unfold plays
    rw [hu]
    cases stage with
    | first =>
      obtain ⟨hnil, rfl⟩ := hi.first
      rcases hh : s.standing.held with _ | n
      · exact absurd (hi.fits.1 hh) (by decide)
      · rw [hnil]
        exact .inr ⟨s.standing.misses_of_held hh _, .inl rfl⟩
    | search => simpa using hi.search.1.playsFit
    | last =>
      obtain ⟨l, hl, hlead, -⟩ := hi.last
      rw [hl]
      exact hlead.playsFit_opened
  cases hs : s.status with
  | underway stage => exact hstage stage (by rw [hs]; rfl) (by cases stage <;> simp [unanswered, hs])
  | crashed stage => exact hstage stage (by rw [hs]; rfl) (by cases stage <;> simp [unanswered, hs])
  | ended r =>
    rw [hs] at hi
    unfold plays
    rw [unanswered_of_hasEnded (by simp [hasEnded, hs]), List.append_nil]
    exact (hi.ended h.sound).playsFit

theorem Recorded.eq_of_mem_plays {e : Effect} (h : s.Recorded c) (he : e ∈ s.plays) : e = s.effect := by
  rcases h.playsFit with ⟨-, hp⟩ | ⟨-, hp | hp⟩ <;> rw [hp] at he
  · cases he
  · simpa using he
  · simpa using he

/-- A second play follows the loss of the first device and the opening of another one. -/
theorem Recorded.second_play (h : s.Recorded c) (hp : 2 ≤ (s.errands.filterMap Errand.effect?).length) :
    ∃ n n' err r r' l, n < n' ∧ s.errands =
      [.play n s.effect (.error err), .close n r, .find c (some n'), .acquire n' (.ok ()),
        .play n' s.effect r'] ++ l ∧ l.filterMap Errand.effect? = [] := by
  obtain ⟨b, hi⟩ := h.itinerary
  have hlead : ∀ {l}, Lead s.effect s.standing l → (l.filterMap Errand.effect?).length ≤ 1 := by
    intro l hl
    cases hl <;> simp [Errand.effect?, List.filterMap_cons]
  -- before the delivery has ended, there was one play at most
  have hstage : ∀ stage, s.status.progress ≠ .next stage := by
    intro stage hs
    rw [hs] at hi
    have hle : (s.errands.filterMap Errand.effect?).length ≤ 1 := by
      cases stage with
      | first => rw [hi.first.1]; exact Nat.zero_le _
      | search => exact hlead hi.search.1
      | last =>
        obtain ⟨l, hl, hld, -⟩ := hi.last
        rw [hl, List.filterMap_append, List.length_append]
        exact hlead hld
    omega
  cases hs : s.status with
  | underway stage => exact absurd (by rw [hs]; rfl) (hstage stage)
  | crashed stage => exact absurd (by rw [hs]; rfl) (hstage stage)
  | ended r =>
    rw [hs] at hi
    generalize s.errands = l at hi hp
    cases hi.ended h.sound with
    | played | kept | dropped => simp [Errand.effect?, List.filterMap_cons] at hp
    | retried hl hr =>
      cases hl with
      | unheld => cases hr <;> simp [Errand.effect?, List.filterMap_cons] at hp
      | lost hheld =>
        have hlt := h.sound.held_lt _ hheld
        cases hr with
        | missing | refused => simp [Errand.effect?, List.filterMap_cons] at hp
        | played => exact ⟨_, _, _, _, _, [], hlt, rfl, rfl⟩
        | kept => exact ⟨_, _, _, _, _, [], hlt, rfl, rfl⟩
        | lost => exact ⟨_, _, _, _, _, [_], hlt, rfl, rfl⟩

theorem Recorded.length_plays_le (h : s.Recorded c) :
    (s.errands.filterMap Errand.effect?).length ≤ 2 := by
  have hp : s.plays.length ≤ 2 := by
    rcases h.playsFit with ⟨-, hp⟩ | ⟨-, hp | hp⟩ <;> simp [hp]
  rw [plays, List.length_append] at hp
  omega

theorem Recorded.effect_eq (h : s.Recorded c) {n : Nat} {e : Effect} {r : Except DeviceError Outcome}
    (hp : .play n e r ∈ s.errands) : e = s.effect := by
  have hm : e ∈ s.plays := List.mem_append_left _ (List.mem_filterMap.2 ⟨_, hp, rfl⟩)
  rcases h.playsFit with ⟨-, hp⟩ | ⟨-, hp | hp⟩ <;> rw [hp] at hm
  · cases hm
  · exact List.mem_singleton.1 hm
  · simpa using hm

/-- A delivery that succeeded has a play that did. -/
theorem Recorded.play_mem (h : s.Recorded c) (hs : s.isDelivered = true) :
    ∃ n o, .play n s.effect (.ok o) ∈ s.errands := by
  obtain ⟨b, hi⟩ := h.itinerary
  obtain ⟨o, ho⟩ : ∃ o, s.status = .ended (.ok o) := by
    unfold isDelivered at hs
    split at hs
    · exact ⟨_, ‹_›⟩
    · cases hs
  rw [ho] at hi
  generalize s.errands = l at hi ⊢
  cases hi.ended h.sound with
  | played => exact ⟨_, o, List.mem_singleton_self _⟩
  | retried _ hr => cases hr with
    | played => exact ⟨s.standing.next, o, by simp⟩

end Delivery

end Haptics
