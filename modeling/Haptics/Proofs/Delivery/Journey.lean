import Haptics.Proofs.Delivery.Course

/-!
# The journey of a courier

`Served` joins the stages of one delivery, and `Journey` the deliveries of a course: each begins with the
courier and the world that the one before left. `Course.run_pace` says that the deliveries of every course
are such a journey, of which only the last can be unfinished.
-/

namespace Haptics

open Courier (Stage Progress)

variable {W D : Type}

/-- How far the delivery of `e` can come that the courier `k₀` begins in the world `w₀`. -/
inductive Served (env : Devices W D) (e : Effect) (k₀ : Courier D) (w₀ : W) :
    Progress → Courier D → W → Prop where
  | begin : Served env e k₀ w₀ (.next k₀.begin) k₀ w₀
  | stage {stage : Stage} {p : Progress} {k k' : Courier D} {w w' : W}
      (h : Served env e k₀ w₀ (.next stage) k w) (hp : k.proceed env stage e w = (p, k', w')) :
    Served env e k₀ w₀ p k' w'

/-- The deliveries of a courier one after the other, from `k₀` and `w₀` on; all but the last have
ended. -/
inductive Journey (env : Devices W D) (k₀ : Courier D) (w₀ : W) :
    List (Delivery W D) → Courier D → W → Prop where
  | start : Journey env k₀ w₀ [] k₀ w₀
  | served {past : List (Delivery W D)} {s : Delivery W D} {k : Courier D}
      (h : Journey env k₀ w₀ past s.courier s.before) (hpast : ∀ s ∈ past, s.hasEnded = true)
      (hs : Served env s.effect s.courier s.before s.status.progress k s.after) :
    Journey env k₀ w₀ (past ++ [s]) k s.after

namespace Journey

variable {env : Devices W D} {k₀ k k' : Courier D} {w₀ w w' : W} {past : List (Delivery W D)}
  {s : Delivery W D}

/-- The last delivery of a journey. -/
theorem of_concat (h : Journey env k₀ w₀ (past ++ [s]) k w) :
    Journey env k₀ w₀ past s.courier s.before ∧ (∀ s ∈ past, s.hasEnded = true) ∧
      Served env s.effect s.courier s.before s.status.progress k s.after ∧ w = s.after := by
  generalize hss : past ++ [s] = ss at h
  cases h with
  | start => simp at hss
  | served h hpast hs =>
    obtain ⟨rfl, hlast⟩ := List.append_inj' hss rfl
    obtain rfl := (List.cons.inj hlast).1
    exact ⟨h, hpast, hs, rfl⟩

/-- A courier that is given an effect begins its delivery. -/
theorem begin {ss : List (Delivery W D)} (h : Journey env k₀ w₀ ss k w)
    (hs : ∀ s ∈ ss, s.hasEnded = true) (e : Effect) :
    Journey env k₀ w₀ (ss ++ [⟨e, k, w, w, .underway k.begin⟩]) k w :=
  .served (s := ⟨e, k, w, w, .underway k.begin⟩) h hs .begin

/-- The delivery that is under way comes one stage further. -/
theorem reached {stage : Stage} {p : Progress} (h : Journey env k₀ w₀ (past ++ [s]) k w)
    (hs : s.status = .underway stage) (hp : k.proceed env stage s.effect w = (p, k', w')) :
    Journey env k₀ w₀ (past ++ [s.reached p w']) k' w' := by
  obtain ⟨hj, hpast, hsrv, rfl⟩ := h.of_concat
  rw [hs] at hsrv
  refine .served (s := s.reached p w') hj hpast ?_
  rw [show (s.reached p w').status.progress = p by cases p <;> rfl]
  exact hsrv.stage hp

theorem crash (h : Journey env k₀ w₀ (past ++ [s]) k w) : Journey env k₀ w₀ (past ++ [s.crash]) k w := by
  obtain ⟨hj, hpast, hsrv, rfl⟩ := h.of_concat
  refine .served (s := s.crash) hj hpast ?_
  rw [show s.crash.status.progress = s.status.progress by unfold Delivery.crash; cases s.status <;> rfl]
  exact hsrv

end Journey

/-- What the phase of a depot tells of the journey of its courier. -/
inductive Pace (env : Devices W D) (k₀ : Courier D) (w₀ : W) :
    Phase D → List (Delivery W D) → W → Prop where
  | resting {p : Phase D} {ss : List (Delivery W D)} {k : Courier D} {w : W}
      (hp : p.resting? = some k ∨ p = .ended (some k)) (h : Journey env k₀ w₀ ss k w)
      (hs : ∀ s ∈ ss, s.hasEnded = true) : Pace env k₀ w₀ p ss w
  | delivering {past : List (Delivery W D)} {s : Delivery W D} {k : Courier D} {w : W} {stage : Stage}
      (h : Journey env k₀ w₀ (past ++ [s]) k w) (hs : s.status = .underway stage) :
    Pace env k₀ w₀ (.delivering k s.effect stage) (past ++ [s]) w
  | crashed {past : List (Delivery W D)} {s : Delivery W D} {k : Courier D} {w : W} {stage : Stage}
      (h : Journey env k₀ w₀ (past ++ [s]) k w) (hs : s.status = .crashed stage) :
    Pace env k₀ w₀ (.ended none) (past ++ [s]) w
  /-- The device may have been closed, and nothing was done since. -/
  | gone {ss : List (Delivery W D)} {k : Courier D} {w w' : W} (h : Journey env k₀ w₀ ss k w)
      (hs : ∀ s ∈ ss, s.isUnderway = false) (hw : w' = w ∨ w' = k.release env w) :
    Pace env k₀ w₀ .gone ss w'

namespace Delivery

theorem isUnderway_of_hasEnded {s : Delivery W D} (h : s.hasEnded = true) : s.isUnderway = false := by
  unfold hasEnded at h
  unfold isUnderway
  cases hs : s.status <;> simp_all

theorem isUnderway_of_crashed {s : Delivery W D} {stage : Stage} (h : s.status = .crashed stage) :
    s.isUnderway = false := by
  simp [isUnderway, h]

end Delivery

namespace Pace

variable {env : Devices W D} {k₀ k : Courier D} {w₀ w : W} {p : Phase D} {ss : List (Delivery W D)}

theorem of_resting (h : Pace env k₀ w₀ p ss w) (hp : p.resting? = some k) :
    Journey env k₀ w₀ ss k w ∧ ∀ s ∈ ss, s.hasEnded = true := by
  cases h with
  | @resting _ _ k' _ hk h hs =>
    rcases hk with hk | rfl
    · obtain rfl : k = k' := by simpa [hp] using hk
      exact ⟨h, hs⟩
    · cases hp
  | delivering | crashed | gone => cases hp

/-- The delivery that is under way is the last one. -/
theorem last {e : Effect} {stage : Stage} (h : Pace env k₀ w₀ (.delivering k e stage) ss w) :
    ∃ past s, ss = past ++ [s] ∧ s.effect = e ∧ s.status = .underway stage ∧
      Journey env k₀ w₀ (past ++ [s]) k w := by
  cases h with
  | resting hp => rcases hp with hp | hp <;> cases hp
  | delivering h hs => exact ⟨_, _, rfl, rfl, hs, h⟩

theorem journey (h : Pace env k₀ w₀ p ss w) :
    ∃ k w', Journey env k₀ w₀ ss k w' ∧ (w = w' ∨ w = k.release env w') := by
  cases h with
  | resting _ h | delivering h | crashed h => exact ⟨_, _, h, .inl rfl⟩
  | gone h _ hw => exact ⟨_, _, h, hw⟩

end Pace

namespace Course

variable {env : Devices W D} {k₀ : Courier D} {w₀ : W} {c c' : Course W D}

/-- The phase of the depot fits the deliveries of the course and its world. -/
def Paced (env : Devices W D) (k₀ : Courier D) (w₀ : W) (c : Course W D) : Prop :=
  Pace env k₀ w₀ c.depot.phase c.deliveries c.world

theorem Move.paced (hm : Move env c c') (h : c.Paced env k₀ w₀) : c'.Paced env k₀ w₀ := by
  obtain ⟨d, w, as, ss⟩ := c
  unfold Paced at h ⊢
  dsimp only at h
  cases hm with
  | nothing | request => exact h
  | @quiet d' hi ht hd hp =>
    rcases hp with hp | ⟨k, hk, hk'⟩
    · dsimp only at hp ⊢
      rw [hp]; exact h
    · obtain ⟨hj, hs⟩ := h.of_resting hk
      exact .resting (.inl hk') hj hs
  | @take k e rest hp hw =>
    obtain ⟨hj, hs⟩ := h.of_resting (k := k) (by dsimp only at hp; rw [hp]; rfl)
    exact .delivering (hj.begin hs e) rfl
  | @proceed k k' e stage p w' hp hk =>
    dsimp only at hp hk
    rw [hp] at h
    obtain ⟨past, s, rfl, rfl, hs, hj⟩ := h.last
    have hj' := hj.reached hs hk
    dsimp only
    rw [List.modifyLast_concat]
    cases p with
    | next stage => exact .delivering (s := s.reached _ _) hj' rfl
    | ended r =>
      refine .resting (.inl rfl) hj' fun s' hs' => ?_
      rcases List.mem_append.1 hs' with hs' | hs'
      · exact hj.of_concat.2.1 s' hs'
      · rw [List.mem_singleton.1 hs']; rfl
  | @crash k e stage hp =>
    dsimp only at hp ⊢
    rw [hp] at h
    obtain ⟨past, s, rfl, -, hs, hj⟩ := h.last
    rw [List.modifyLast_concat]
    have hc : s.crash.status = .crashed stage := by simp [Delivery.crash, hs]
    exact .crashed hj.crash hc
  | @close d' k w' hp hi ht hd hq =>
    obtain ⟨hj, hs⟩ := h.of_resting hp
    have hu := fun s hm => Delivery.isUnderway_of_hasEnded (hs s hm)
    rcases hq with ⟨hq, rfl⟩ | ⟨hq, rfl⟩ | ⟨hq, rfl⟩ <;> dsimp only <;> rw [hq]
    · exact .resting (.inr rfl) hj hs
    · exact .gone hj hu (.inl rfl)
    · exact .gone hj hu (.inr rfl)
  | @release k hp =>
    -- the consumer ended with a courier, or in a crash without one
    dsimp only at hp ⊢
    rw [hp] at h
    cases h with
    | @resting _ _ k' _ hr hj hs =>
      obtain rfl : k = some k' := hr.elim (fun hr => by cases hr) Phase.ended.inj
      exact .gone hj (fun s hm => Delivery.isUnderway_of_hasEnded (hs s hm)) (.inr rfl)
    | @crashed past s k' _ stage h hs =>
      refine .gone h (fun s' hm => ?_) (.inl rfl)
      rcases List.mem_append.1 hm with hm | hm
      · exact Delivery.isUnderway_of_hasEnded (h.of_concat.2.1 s' hm)
      · rw [List.mem_singleton.1 hm]; exact Delivery.isUnderway_of_crashed hs

/-- The deliveries of a course that began with the courier `k₀` are a journey of that courier. -/
theorem run_pace (env : Devices W D) (w : W) {d : Depot D} (hd : d.phase = .pending k₀) (acts : List Act) :
    ((start d w).run env acts).Paced env k₀ w :=
  run_induction (.resting (.inl (by rw [start, hd]; rfl)) .start (by simp [start]))
    (fun _ _ h hm => hm.paced h) acts

/-- At most one delivery is under way, that of the effect in flight. -/
theorem Paced.filter_isUnderway (h : c.Paced env k₀ w₀) :
    (c.deliveries.filter (·.isUnderway)).map (·.effect) = c.depot.inFlight?.toList := by
  have hnil : ∀ {ss : List (Delivery W D)}, (∀ s ∈ ss, s.isUnderway = false) →
      ss.filter (·.isUnderway) = [] :=
    fun hs => List.filter_eq_nil_iff.2 fun s hm => by simp [hs s hm]
  have hpast : ∀ {past : List (Delivery W D)} {s k w}, Journey env k₀ w₀ (past ++ [s]) k w →
      past.filter (·.isUnderway) = [] :=
    fun hj => hnil fun s hm => Delivery.isUnderway_of_hasEnded (hj.of_concat.2.1 s hm)
  unfold Paced at h
  unfold Depot.inFlight?
  generalize c.depot.phase = p, c.deliveries = ss, c.world = w at h
  cases h with
  | @resting p _ k _ hp _ hs =>
    rw [hnil fun s hm => Delivery.isUnderway_of_hasEnded (hs s hm)]
    cases p <;> first | rfl | simp [Phase.resting?] at hp
  | delivering hj hs => rw [List.filter_append, hpast hj]; simp [Delivery.isUnderway, hs]
  | crashed hj hs => rw [List.filter_append, hpast hj]; simp [Delivery.isUnderway, hs]
  | gone _ hs => rw [hnil hs]; rfl

end Course

end Haptics
