import Haptics.Proofs.Delivery.Course

/-!
# The end of a course

`Course.Turn` lists what an act can make of the phase of a depot. Until a depot is gone it has a courier,
unless a crash has cost it (`Course.run_attended`), and once it is gone nothing is done any more
(`Course.run_gone`). A course is `Stopped` if a `join` has ended it; this sends the courier home
(`Stopped.release`).
-/

namespace Haptics

variable {W D : Type}

namespace Course

/-- What an act can make of the phase of a depot, which was told to stop or was not. -/
inductive Turn (a : Act) (isStopping : Bool) : Phase D → Phase D → Prop where
  | stay {p} (hl : a = .look → ∀ k, p ≠ .waiting k) : Turn a isStopping p p
  | start {k} (ha : a = .start) : Turn a isStopping (.pending k) (.idle k)
  | wait {p k} (ha : a = .look) (hs : isStopping = false) (hp : p = .idle k ∨ p = .waiting k) :
    Turn a isStopping p (.waiting k)
  | heed {p k} (ha : a = .look) (hs : isStopping = true) (hp : p = .idle k ∨ p = .waiting k) :
    Turn a isStopping p (.leaving k)
  | take {k e} (ha : a = .take) : Turn a isStopping (.waiting k) (.delivering k e k.begin)
  | advance {k k' e stage stage'} (ha : a = .proceed) :
    Turn a isStopping (.delivering k e stage) (.delivering k' e stage')
  | deliver {k k' e stage} (ha : a = .proceed) : Turn a isStopping (.delivering k e stage) (.idle k')
  | crash {k e stage} (ha : a = .crash) : Turn a isStopping (.delivering k e stage) (.ended none)
  | leave {k} (ha : a = .leave) : Turn a isStopping (.leaving k) (.ended (some k))
  | give_up {k} (ha : a = .join ∨ a = .abandon) : Turn a isStopping (.pending k) .gone
  | join {k} (ha : a = .join) : Turn a isStopping (.ended k) .gone

theorem step_turn (env : Devices W D) (c : Course W D) (a : Act) :
    Turn a c.depot.isStopping c.depot.phase (c.step env a).depot.phase := by
  obtain ⟨d, w, answers, deliveries⟩ := c
  simp only [step]
  cases a with
  | request | signal => exact .stay (by simp)
  | start =>
    simp only [Depot.act, Depot.start]
    split
    · rename_i k hp; rw [hp]; exact .start rfl
    · exact .stay (by simp)
  | look =>
    simp only [Depot.act, Depot.look]
    split
    · rename_i k hp
      cases hs : d.isStopping
      · exact .wait rfl rfl (.inl hp)
      · exact .heed rfl rfl (.inl hp)
    · rename_i k hp
      cases hs : d.isStopping
      · exact .wait rfl rfl (.inr hp)
      · exact .heed rfl rfl (.inr hp)
    · rename_i hp; exact .stay fun _ => hp
  | take =>
    simp only [Depot.act, Depot.take]
    split
    · rename_i k e rest hp _; rw [hp]; exact .take rfl
    · exact .stay (by simp)
  | proceed =>
    simp only [Depot.act, Depot.proceed]
    split
    · rename_i k e stage hp
      rw [hp]
      rcases k.proceed env stage e w with ⟨_ | _, k', w'⟩
      · exact .advance rfl
      · exact .deliver rfl
    · exact .stay (by simp)
  | crash =>
    simp only [Depot.act, Depot.crash]
    split
    · rename_i hp; rw [hp]; exact .crash rfl
    · exact .stay (by simp)
  | leave =>
    simp only [Depot.act, Depot.leave]
    split
    · rename_i k hp; rw [hp]; exact .leave rfl
    · exact .stay (by simp)
  | join =>
    simp only [Depot.act, Depot.join]
    split
    · rename_i k hp; rw [hp]; exact .give_up (.inl rfl)
    · rename_i k hp; rw [hp]; exact .join rfl
    · rename_i hp; rw [hp]; exact .join rfl
    · exact .stay (by simp)
  | abandon =>
    simp only [Depot.act, Depot.abandon]
    split
    · rename_i k hp; rw [hp]; exact .give_up (.inr rfl)
    · exact .stay (by simp)

variable {env : Devices W D} {c : Course W D}

theorem run_append (env : Devices W D) (c : Course W D) (acts acts' : List Act) :
    c.run env (acts ++ acts') = (c.run env acts).run env acts' :=
  List.foldl_append

theorem step_gone (h : c.depot.phase = .gone) (a : Act) :
    (c.step env a).depot.phase = .gone ∧ (c.step env a).world = c.world ∧
      (c.step env a).deliveries = c.deliveries := by
  obtain ⟨d, w, answers, deliveries⟩ := c
  dsimp only at h
  cases a <;>
    simp [step, Depot.act, Depot.request, Depot.start, Depot.look, Depot.take, Depot.proceed, Depot.crash,
      Depot.leave, Depot.signal, Depot.join, Depot.abandon, recorded, h]

/-- Nothing is done any more in a course whose depot is gone. -/
theorem run_gone (env : Devices W D) (h : c.depot.phase = .gone) (acts : List Act) :
    (c.run env acts).depot.phase = .gone ∧ (c.run env acts).world = c.world ∧
      (c.run env acts).deliveries = c.deliveries := by
  induction acts generalizing c with
  | nil => exact ⟨h, rfl, rfl⟩
  | cons a acts ih =>
    obtain ⟨hp, hw, hd⟩ : (c.step env a).depot.phase = .gone ∧ (c.step env a).world = c.world ∧
      (c.step env a).deliveries = c.deliveries := step_gone h a
    obtain ⟨hp', hw', hd'⟩ := ih hp
    exact ⟨hp', hw'.trans hw, hd'.trans hd⟩

/-- Only a crash takes the courier from a depot that is not gone. -/
theorem step_attended {a : Act} (ha : a ≠ .crash) (h : c.depot.phase ≠ .ended none) :
    (c.step env a).depot.phase ≠ .ended none := by
  intro hp
  have ht := step_turn env c a
  rw [hp] at ht
  generalize c.depot.phase = p at ht h
  cases ht with
  | stay => exact h rfl
  | crash hc => exact ha hc

theorem run_attended {acts : List Act} (ha : .crash ∉ acts) (h : c.depot.phase ≠ .ended none) :
    (c.run env acts).depot.phase ≠ .ended none := by
  induction acts generalizing c with
  | nil => exact h
  | cons a acts ih =>
    obtain ⟨hne, hacts⟩ := List.ne_and_not_mem_of_not_mem_cons ha
    exact ih hacts (step_attended (Ne.symm hne) h)

/-- The acts have stopped the depot, and no device has brought the consumer down before. -/
def Stopped (env : Devices W D) (c : Course W D) (acts : List Act) : Prop :=
  ∃ before after, acts = before ++ .join :: after ∧ .crash ∉ before ∧
    (c.run env before).depot.phase ≠ .gone ∧ (c.run env (before ++ [.join])).depot.phase = .gone

/-- A join that leaves the depot gone has sent home the courier that was there. -/
theorem step_join (hc : c.depot.phase ≠ .ended none) (ho : c.depot.phase ≠ .gone)
    (hg : (c.step env .join).depot.phase = .gone) :
    ∃ k, c.depot.phase.courier? = some k ∧ (c.step env .join).world = k.release env c.world := by
  obtain ⟨d, w, answers, deliveries⟩ := c
  dsimp only at hc ho
  simp only [step, Depot.act, Depot.join] at hg ⊢
  rcases hp : d.phase with k | k | k | ⟨k, e, stage⟩ | k | k | _ <;> rw [hp] at hg hc ho
  case pending => exact ⟨k, rfl, rfl⟩
  case ended =>
    cases k with
    | none => exact absurd rfl hc
    | some k => exact ⟨k, rfl, rfl⟩
  case gone => exact absurd rfl ho
  all_goals exact absurd (hp.symm.trans hg) (by simp)

/-- A depot that is stopped sends its courier home, and does nothing more. -/
theorem Stopped.release {acts : List Act} (hc : c.depot.phase ≠ .ended none) (h : Stopped env c acts) :
    ∃ before k, (c.run env before).depot.phase.courier? = some k ∧
      (c.run env acts).world = k.release env (c.run env before).world := by
  obtain ⟨before, after, rfl, hcrash, hopen, hgone⟩ := h
  have hne : (c.run env before).depot.phase ≠ .ended none := run_attended hcrash hc
  rw [List.append_cons, run_append, (run_gone env hgone after).2.1]
  rw [run_append] at hgone ⊢
  exact ⟨before, step_join hne hopen hgone⟩

end Course

end Haptics
