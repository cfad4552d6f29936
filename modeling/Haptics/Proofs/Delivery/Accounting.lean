import Haptics.Proofs.Delivery.Ledger

/-!
# The counts of a depot

Every effect that was taken was delivered or abandoned, or is under way, unless a crash brought the
consumer down. Together with the ledger of the inbox this balances the counts at any time.
-/

namespace Haptics

open Courier (Stage Progress)

namespace Delivery

variable {W D : Type} (s : Delivery W D)

theorem isDelivered_of_not_hasEnded (h : s.hasEnded = false) :
    s.isDelivered = false ∧ s.isAbandoned = false := by
  unfold hasEnded at h
  unfold isDelivered isAbandoned
  cases hs : s.status <;> simp_all

theorem isDelivered_reached (p : Progress) (w : W) :
    (s.reached p w).isDelivered = match p with
      | .ended (.ok _) => true
      | _ => false := by
  cases p with
  | next => rfl
  | ended r => cases r <;> rfl

theorem isAbandoned_reached (p : Progress) (w : W) :
    (s.reached p w).isAbandoned = match p with
      | .ended (.error _) => true
      | _ => false := by
  cases p with
  | next => rfl
  | ended r => cases r <;> rfl

/-- Every delivery is in one of four states. -/
theorem length_eq_countP (ss : List (Delivery W D)) :
    ss.length = ss.countP (·.isDelivered) + ss.countP (·.isAbandoned) + ss.countP (·.isUnderway) +
      ss.countP (·.hasCrashed) := by
  induction ss with
  | nil => rfl
  | cons s ss ih =>
    have hs : (if s.isDelivered = true then 1 else 0) + (if s.isAbandoned = true then 1 else 0) +
        (if s.isUnderway = true then 1 else 0) + (if s.hasCrashed = true then 1 else 0) = 1 := by
      unfold isDelivered isAbandoned isUnderway hasCrashed
      cases s.status with
      | underway | crashed => rfl
      | ended r => cases r <;> rfl
    simp only [List.length_cons, List.countP_cons]
    omega

end Delivery

namespace Course

variable {W D : Type} {env : Devices W D} {k₀ : Courier D} {w₀ : W} {c c' : Course W D}

/-- The tally counts the deliveries that have ended. -/
structure Tallied (c : Course W D) : Prop where
  delivered : c.depot.tally.delivered = c.deliveries.countP (·.isDelivered)
  abandoned : c.depot.tally.abandoned = c.deliveries.countP (·.isAbandoned)

theorem Tallied.of_eq (h : c.Tallied) (ht : c'.depot.tally = c.depot.tally)
    (hd : c'.deliveries = c.deliveries) : c'.Tallied := by
  obtain ⟨h1, h2⟩ := h
  exact ⟨by rw [ht, hd, h1], by rw [ht, hd, h2]⟩

theorem countP_modifyLast {ss past : List (Delivery W D)} {s : Delivery W D} (hss : ss = past ++ [s])
    (f : Delivery W D → Delivery W D) {p : Delivery W D → Bool} (hp : p s = false) :
    (ss.modifyLast f).countP p = ss.countP p + if p (f s) then 1 else 0 := by
  rw [hss, List.modifyLast_concat, List.countP_append, List.countP_append, List.countP_singleton,
    List.countP_singleton, hp]
  simp

theorem Move.tallied (hm : Move env c c') (hp : c.Paced env k₀ w₀) (h : c.Tallied) : c'.Tallied := by
  cases hm with
  | nothing => exact h
  | request => exact h.of_eq rfl rfl
  | quiet hi ht => exact h.of_eq ht rfl
  | take =>
    obtain ⟨h1, h2⟩ := h
    exact ⟨by rw [List.countP_append, h1]; rfl, by rw [List.countP_append, h2]; rfl⟩
  | @proceed k k' e stage p w hph hk =>
    unfold Paced at hp
    rw [hph] at hp
    obtain ⟨past, s, hss, -, hs, -⟩ := hp.last
    have hn := s.isDelivered_of_not_hasEnded (by simp [Delivery.hasEnded, hs])
    constructor
    · dsimp only
      rw [countP_modifyLast hss _ hn.1, s.isDelivered_reached, ← h.delivered]
      rcases p with _ | _ | _ <;> rfl
    · dsimp only
      rw [countP_modifyLast hss _ hn.2, s.isAbandoned_reached, ← h.abandoned]
      rcases p with _ | _ | _ <;> rfl
  | crash hph =>
    unfold Paced at hp
    rw [hph] at hp
    obtain ⟨past, s, hss, -, hs, -⟩ := hp.last
    have hn := s.isDelivered_of_not_hasEnded (by simp [Delivery.hasEnded, hs])
    have hn' := s.crash.isDelivered_of_not_hasEnded (by simp [Delivery.hasEnded, Delivery.crash, hs])
    constructor
    · dsimp only
      rw [countP_modifyLast hss _ hn.1, hn'.1, ← h.delivered]; rfl
    · dsimp only
      rw [countP_modifyLast hss _ hn.2, hn'.2, ← h.abandoned]; rfl
  | close hph hi ht => exact h.of_eq ht rfl
  | release => exact h.of_eq rfl rfl

theorem run_tallied (env : Devices W D) (w : W) {d : Depot D} (hd : d.phase = .pending k₀)
    (ht : d.tally = ⟨0, 0⟩) (acts : List Act) : ((start d w).run env acts).Tallied := by
  have hstart : (start d w : Course W D).Tallied := ⟨by rw [start, ht]; rfl, by rw [start, ht]; rfl⟩
  exact (run_induction (P := fun c => c.Paced env k₀ w ∧ c.Tallied) ⟨run_pace env w hd [], hstart⟩
    (fun _ _ h hm => ⟨hm.paced h.1, hm.tallied h.1 h.2⟩) acts).2

theorem recorded_hasCrashed {a : Act} (ha : a ≠ .crash) (h : ∀ s ∈ c.deliveries, s.hasCrashed = false) :
    ∀ s ∈ c.recorded env a, s.hasCrashed = false := by
  cases a with
  | crash => exact absurd rfl ha
  | take =>
    simp only [recorded]
    split
    · intro s hs
      rcases List.mem_append.1 hs with hs | hs
      · exact h s hs
      · rw [List.mem_singleton.1 hs]; rfl
    · exact h
  | proceed =>
    simp only [recorded]
    split
    · rename_i k e stage _
      rcases hp : k.proceed env stage e c.world with ⟨p, k', w⟩
      rcases List.eq_nil_or_concat c.deliveries with hd | ⟨past, s, hd⟩
      · rw [hd]
        exact fun _ hs => absurd hs List.not_mem_nil
      · rw [hd, List.concat_eq_append] at h ⊢
        rw [List.modifyLast_concat]
        intro s' hs'
        rcases List.mem_append.1 hs' with hs' | hs'
        · exact h s' (List.mem_append_left _ hs')
        · rw [List.mem_singleton.1 hs']; cases p <;> rfl
    · exact h
  | request | start | look | leave | signal | join | abandon => exact h

/-- Only a crash makes a delivery crash. -/
theorem run_hasCrashed {acts : List Act} (ha : .crash ∉ acts) (h : ∀ s ∈ c.deliveries, s.hasCrashed = false) :
    ∀ s ∈ (c.run env acts).deliveries, s.hasCrashed = false := by
  induction acts generalizing c with
  | nil => exact h
  | cons a acts ih =>
    obtain ⟨hne, hacts⟩ := List.ne_and_not_mem_of_not_mem_cons ha
    exact ih hacts (recorded_hasCrashed (Ne.symm hne) h)

/-- The counts of a depot after any run in which no device brings the consumer down: every effect that was
accepted was delivered or abandoned, is being delivered, waits, or was discarded when the inbox was closed.
The answer to a request depends on its number and on the room that there is for it. -/
theorem run_balanced (env : Devices W D) {capacity : Nat} {preferred : Option Connection}
    {device : Option D} {d : Depot D} (hd : Depot.ofCapacity? capacity preferred device = some d) (w : W)
    {acts : List Act} (ha : .crash ∉ acts) :
    let c := (start d w).run env acts
    let i := c.depot.inbox
    (i.capacity = max capacity 1 ∧ i.waiting.length ≤ i.capacity) ∧
      i.accepted = c.depot.tally.delivered + c.depot.tally.abandoned + c.depot.inFlight?.toList.length +
        i.waiting.length + c.depot.discarded ∧
      i.dropped = c.answers.countP (fun a => Effect.Names a.1 ∧ a.2 = .dropped) ∧
      (i.isClosed = true ↔ c.depot.phase.hasEnded = true) ∧
      ∀ n : Int64,
        ((c.depot.request n).1 = .rejected ↔ ¬ (0 ≤ n.toInt ∧ n.toInt ≤ 15)) ∧
        ((c.depot.request n).1 = .rejected → (c.depot.request n).2 = c.depot) ∧
        ((c.depot.request n).1 = .accepted ↔
          (0 ≤ n.toInt ∧ n.toInt ≤ 15) ∧ i.isClosed = false ∧ i.waiting.length < i.capacity) ∧
        ((c.depot.request n).1 = .dropped ↔
          (0 ≤ n.toInt ∧ n.toInt ≤ 15) ∧ ¬ (i.isClosed = false ∧ i.waiting.length < i.capacity)) := by
  intro c i
  obtain ⟨hl, hpend, htally⟩ := Ledger.of_ofCapacity? hd
  have horder : c.Orderly (max capacity 1) := run_orderly env hl w acts
  have hpace : c.Paced env (.new preferred device) w := run_pace env w hpend acts
  have htally : c.Tallied := run_tallied env w hpend htally acts
  have hcrash : c.deliveries.countP (·.hasCrashed) = 0 :=
    List.countP_eq_zero.2 fun s hs => by
      simp [run_hasCrashed (c := start d w) ha (by simp [start]) s hs]
  -- what was accepted splits by the ledger, and what was taken by the states of the deliveries
  refine ⟨⟨horder.capacity_eq, ?_⟩, ?_, horder.dropped_eq, by rw [← horder.closed], fun n => ?_⟩
  · rw [show i.capacity = max capacity 1 from horder.capacity_eq]
    exact horder.waiting_le
  · obtain ⟨gone, hgone, -, heq⟩ := horder.order
    have hlen : i.accepted = c.deliveries.length + i.waiting.length + c.depot.discarded := by
      rw [horder.accepted_eq, heq, ← hgone, List.length_append, List.length_append, started,
        List.length_map]
    have hunderway : c.deliveries.countP (·.isUnderway) = c.depot.inFlight?.toList.length := by
      rw [← hpace.filter_isUnderway, List.length_map, List.countP_eq_length_filter]
    have hstates := Delivery.length_eq_countP c.deliveries
    rw [← htally.delivered, ← htally.abandoned, hunderway, hcrash] at hstates
    omega
  · have hr : (c.depot.request n).1 = (i.request n).1 := rfl
    rw [hr, i.request_fst]
    change (_ ↔ ¬ Effect.Names n) ∧ _ ∧ (_ ↔ Effect.Names n ∧ i.HasRoom) ∧
      (_ ↔ Effect.Names n ∧ ¬ i.HasRoom)
    by_cases hn : Effect.Names n
    · by_cases hroom : i.HasRoom <;> simp [hn, hroom]
    · have hq : (c.depot.request n).2 = c.depot := by
        unfold Depot.request
        rw [Inbox.request_of_error (Effect.ofNumber_of_not_names hn)]
      simp [hn, hq]

/-- One effect is under way and one waits, for which there is no more room. -/
theorem run_balanced_full :
    ∃ d, Depot.ofCapacity? 1 none (some ()) = some d ∧
      .crash ∉ [Act.request 3, .request 16, .start, .look, .take, .request 4, .request 5] ∧
      let c := (start d []).run Devices.scripted
        [.request 3, .request 16, .start, .look, .take, .request 4, .request 5]
      (c.depot.inbox.accepted, c.depot.inbox.dropped, c.depot.inbox.waiting.length) = (2, 1, 1) ∧
      c.depot.inbox.accepted = c.depot.tally.delivered + c.depot.tally.abandoned +
        c.depot.inFlight?.toList.length + c.depot.inbox.waiting.length + c.depot.discarded := by
  have hd : Depot.ofCapacity? 1 none (some ()) =
    some ⟨⟨1, [], false, 0, 0⟩, ⟨0, 0⟩, .pending ⟨none, some (), 0⟩, false, false, 0⟩ := rfl
  exact ⟨_, hd, by decide, rfl, (run_balanced Devices.scripted hd [] (by decide)).2.1⟩

end Course

end Haptics
