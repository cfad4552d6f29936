import Haptics.Proofs.Delivery.Accounting
import Haptics.Proofs.Delivery.Dispatch
import Haptics.Proofs.Delivery.Finish
import Haptics.Proofs.Delivery.Order
import Mathlib.Data.List.Induction

/-!
# Stopping a depot

The consumer looks for the signal to stop before it takes an effect, so once it is given, at most one more
is taken, and only if the consumer has looked already (`Course.run_signalled`). The delivery that is under
way goes on to its end (`Course.run_delivering`), unless a device brings the consumer down
(`Course.run_crash`), and a consumer that has seen the signal takes nothing any more (`Course.run_over`).
`Course.run_stops` says this of every course, and what is left to do afterwards. One effect can indeed be
taken and played after the signal (`Course.run_stops_late`).
-/

namespace Haptics

open Courier (Stage Progress)

variable {W D : Type}

namespace Phase

def isPending : Phase D → Bool
  | pending _ => true
  | _ => false

/-- Whether a consumer has been started and has not ended. -/
def isConsuming : Phase D → Bool
  | idle _ | waiting _ | delivering .. | leaving _ => true
  | pending _ | ended _ | gone => false

/-- Whether the consumer has seen the signal to stop, or has ended. -/
def isOver : Phase D → Bool
  | leaving _ | ended _ | gone => true
  | pending _ | idle _ | waiting _ | delivering .. => false

end Phase

namespace Course

/-- The number of consumers that are started by these acts. -/
def consumers (env : Devices W D) (c : Course W D) : List Act → Nat
  | [] => 0
  | a :: acts => (if a = .start ∧ c.depot.phase.isPending = true then 1 else 0) +
      (c.step env a).consumers env acts

variable {env : Devices W D} {c : Course W D}

section
variable {k : Courier D} {e : Effect} {stage : Stage} {a : Act}

theorem step_isStopping (env : Devices W D) (h : c.depot.isStopping = true) (a : Act) :
    (c.step env a).depot.isStopping = true := by
  obtain ⟨d, w, answers, deliveries⟩ := c
  simp only [step]
  cases a with
  | request => exact h
  | signal => rfl
  | start => simp only [Depot.act, Depot.start]; split <;> exact h
  | look => simp only [Depot.act, Depot.look]; split <;> exact h
  | take => simp only [Depot.act, Depot.take]; split <;> exact h
  | proceed =>
    simp only [Depot.act, Depot.proceed]
    split
    · rename_i k e stage _
      rcases k.proceed env stage e w with ⟨_ | _, k', w'⟩ <;> exact h
    · exact h
  | crash => simp only [Depot.act, Depot.crash]; split <;> exact h
  | leave => simp only [Depot.act, Depot.leave]; split <;> exact h
  | join => simp only [Depot.act, Depot.join]; split <;> exact h
  | abandon => simp only [Depot.act, Depot.abandon]; split <;> rfl

theorem run_isStopping (h : c.depot.isStopping = true) (acts : List Act) :
    (c.run env acts).depot.isStopping = true := by
  induction acts generalizing c with
  | nil => exact h
  | cons a acts ih => exact ih (step_isStopping env h a)

/-- Only a look at a depot that was not told to stop makes the consumer wait. -/
theorem step_waiting (h : (c.step env a).depot.phase = .waiting k) :
    a = .look ∧ c.depot.isStopping = false ∨ a ≠ .look ∧ c.depot.phase = .waiting k := by
  have ht := step_turn env c a
  rw [h] at ht
  generalize c.depot.phase = p at ht
  cases ht with
  | stay hl => exact .inr ⟨fun ha => hl ha k rfl, rfl⟩
  | wait ha hs => exact .inl ⟨ha, hs⟩

/-- An effect is taken by a consumer that waits, and then it is being delivered. -/
theorem step_started (env : Devices W D) (c : Course W D) (a : Act) :
    (c.step env a).started = c.started ∨
      a = .take ∧ ∃ k e, c.depot.phase = .waiting k ∧ (c.step env a).started = c.started ++ [e] ∧
        (c.step env a).depot.phase = .delivering k e k.begin := by
  obtain ⟨d, w, answers, deliveries⟩ := c
  cases a with
  | request | start | look | leave | signal | join | abandon => exact .inl rfl
  | take =>
    rcases hp : d.phase with _ | _ | k | _ | _ | _ | _
    case waiting =>
      rcases hw : d.inbox.waiting with _ | ⟨e, rest⟩
      · exact .inl (by simp [started, step, recorded, hp, hw])
      · exact .inr ⟨rfl, k, e, rfl, by simp [started, step, recorded, hp, hw],
          by simp [step, Depot.act, Depot.take, hp, hw]⟩
    all_goals exact .inl (by simp [started, step, recorded, hp])
  | proceed =>
    refine .inl ?_
    simp only [started, step, recorded]
    split
    · exact map_effect_modifyLast deliveries fun _ => rfl
    · rfl
  | crash =>
    refine .inl ?_
    simp only [started, step, recorded]
    split
    · exact map_effect_modifyLast deliveries fun _ => rfl
    · rfl

/-- While an effect is delivered, nothing but the delivery itself goes on, unless it crashes. -/
theorem step_delivering (env : Devices W D) (h : c.depot.phase = .delivering k e stage)
    (hp : a ≠ .proceed) (hc : a ≠ .crash) :
    (c.step env a).depot.phase = .delivering k e stage ∧ (c.step env a).depot.tally = c.depot.tally ∧
      (c.step env a).deliveries = c.deliveries := by
  obtain ⟨d, w, answers, deliveries⟩ := c
  dsimp only at h
  cases a with
  | proceed => exact absurd rfl hp
  | crash => exact absurd rfl hc
  | request | start | look | take | leave | signal | join | abandon =>
    simp [step, Depot.act, Depot.request, Depot.start, Depot.look, Depot.take, Depot.leave, Depot.signal,
      Depot.join, Depot.abandon, recorded, h]

theorem step_over (env : Devices W D) (h : c.depot.phase.isOver = true) (a : Act) :
    (c.step env a).depot.phase.isOver = true ∧ (c.step env a).depot.tally = c.depot.tally ∧
      (c.step env a).deliveries = c.deliveries := by
  obtain ⟨d, w, answers, deliveries⟩ := c
  dsimp only at h
  rcases hp : d.phase with _ | _ | _ | _ | k | k | _ <;> rw [hp] at h
  case leaving | gone =>
    cases a <;>
      simp [step, Depot.act, Depot.request, Depot.start, Depot.look, Depot.take, Depot.proceed, Depot.crash,
        Depot.leave, Depot.signal, Depot.join, Depot.abandon, Depot.closeInbox, recorded, Phase.isOver, hp]
  case ended =>
    cases a <;> cases k <;>
      simp [step, Depot.act, Depot.request, Depot.start, Depot.look, Depot.take, Depot.proceed, Depot.crash,
        Depot.leave, Depot.signal, Depot.join, Depot.abandon, recorded, Phase.isOver, hp]
  all_goals cases h

end

/-- Once the consumer has seen the signal, or has ended, nothing is delivered. -/
theorem run_over (env : Devices W D) (h : c.depot.phase.isOver = true) (acts : List Act) :
    (c.run env acts).depot.tally = c.depot.tally ∧ (c.run env acts).deliveries = c.deliveries := by
  induction acts generalizing c with
  | nil => exact ⟨rfl, rfl⟩
  | cons a acts ih =>
    obtain ⟨ho, ht, hd⟩ := step_over env h a
    obtain ⟨ht', hd'⟩ := ih ho
    exact ⟨ht'.trans ht, hd'.trans hd⟩

/-- Nothing is taken after the signal to stop, unless the consumer waits. -/
theorem run_halted (hs : c.depot.isStopping = true) (hw : ∀ k, c.depot.phase ≠ .waiting k)
    (acts : List Act) : (c.run env acts).started = c.started := by
  induction acts generalizing c with
  | nil => rfl
  | cons a acts ih =>
    have hne : ∀ k, (c.step env a).depot.phase ≠ .waiting k := by
      intro k hk
      rcases step_waiting hk with ⟨-, hf⟩ | ⟨-, hk⟩
      · exact Bool.noConfusion (hs.symm.trans hf)
      · exact hw k hk
    have hsame : (c.step env a).started = c.started := by
      rcases step_started env c a with h | ⟨-, k, e, hk, -⟩
      · exact h
      · exact absurd hk (hw k)
    exact (ih (step_isStopping env hs a) hne).trans hsame

/-- After the signal to stop at most one effect is taken, by a consumer that has not looked since. -/
theorem run_signalled (hs : c.depot.isStopping = true) (acts : List Act) :
    (c.run env acts).started = c.started ∨
      ∃ k e past later, c.depot.phase = .waiting k ∧ acts = past ++ .take :: later ∧ .look ∉ past ∧
        (c.run env acts).started = c.started ++ [e] := by
  -- a consumer that waits stops to do so by its next act, a look or the taking of an effect
  induction acts generalizing c with
  | nil => exact .inl rfl
  | cons a acts ih =>
    by_cases hw : ∀ k, c.depot.phase ≠ .waiting k
    · exact .inl (run_halted hs hw (a :: acts))
    · obtain ⟨k, hk⟩ := not_forall_not.1 hw
      have hs' := step_isStopping env hs a
      rcases step_started env c a with hsame | ⟨rfl, k', e, -, hstart, hp⟩
      · by_cases hw' : ∀ k, (c.step env a).depot.phase ≠ .waiting k
        · exact .inl ((run_halted hs' hw' acts).trans hsame)
        · obtain ⟨k', hk'⟩ := not_forall_not.1 hw'
          obtain ⟨ha, -⟩ : a ≠ .look ∧ c.depot.phase = .waiting k' :=
            (step_waiting hk').resolve_left fun h => Bool.noConfusion (hs.symm.trans h.2)
          rcases ih hs' with h | ⟨_, e, past, later, -, rfl, hpast, h⟩
          · exact .inl (h.trans hsame)
          · refine .inr ⟨k, e, a :: past, later, hk, rfl, ?_, h.trans (by rw [hsame])⟩
            exact fun hm => (List.mem_cons.1 hm).elim (fun h => ha h.symm) hpast
      · have hne : ∀ k, (c.step env .take).depot.phase ≠ .waiting k := fun k hk => by
          rw [hp] at hk; cases hk
        exact .inr ⟨k, e, [], acts, hk, rfl, by simp, (run_halted hs' hne acts).trans hstart⟩

theorem run_look (hs : c.depot.isStopping = true) (acts : List Act) :
    (c.run env (.look :: acts)).started = c.started := by
  have hne : ∀ k, (c.step env .look).depot.phase ≠ .waiting k := by
    intro k hk
    rcases step_waiting hk with ⟨-, hf⟩ | ⟨hne, -⟩
    · exact Bool.noConfusion (hs.symm.trans hf)
    · exact hne rfl
  exact run_halted (c := c.step env .look) (step_isStopping env hs .look) hne acts

/-- The consumer has looked, was not told to stop then, and has waited for an effect since. -/
def HasLooked (env : Devices W D) (c : Course W D) (acts : List Act) (k : Courier D) : Prop :=
  ∃ past later, acts = past ++ .look :: later ∧ (c.run env past).depot.isStopping = false ∧
    ∀ l, l <+: later → (c.run env (past ++ .look :: l)).depot.phase = .waiting k

theorem hasLooked_of_waiting {k : Courier D} (hc : ∀ k, c.depot.phase ≠ .waiting k) {acts : List Act}
    (h : (c.run env acts).depot.phase = .waiting k) : c.HasLooked env acts k := by
  -- the last look is found from the end of the acts
  induction acts using List.reverseRecOn with
  | nil => exact absurd h (hc k)
  | append_singleton acts a ih =>
    have hstep : (c.run env (acts ++ [a])) = (c.run env acts).step env a := run_append env c acts [a]
    rw [hstep] at h
    rcases step_waiting h with ⟨rfl, hf⟩ | ⟨-, hk⟩
    · refine ⟨acts, [], rfl, hf, fun l hl => ?_⟩
      rw [List.prefix_nil.1 hl, hstep]
      exact h
    · obtain ⟨past, later, rfl, hf, hwait⟩ := ih hk
      refine ⟨past, later ++ [a], by simp, hf, fun l hl => ?_⟩
      rcases List.prefix_concat_iff.1 hl with rfl | hl
      · rw [← List.cons_append, ← List.append_assoc, hstep]
        exact h
      · exact hwait l hl

theorem flatMap_modifyLast {β : Type} (ss : List (Delivery W D)) {f : Delivery W D → Delivery W D}
    {g : Delivery W D → List β} (hf : ∀ s, g (f s) = g s) : (ss.modifyLast f).flatMap g = ss.flatMap g := by
  rcases List.eq_nil_or_concat ss with rfl | ⟨past, s, rfl⟩
  · rfl
  · rw [List.concat_eq_append, List.modifyLast_concat]
    simp [hf]

/-- A device that brings the consumer down ends the course: the effect is not counted, and none is taken
any more. -/
theorem run_crash (env : Devices W D) {k : Courier D} {e : Effect} {stage : Stage}
    (h : c.depot.phase = .delivering k e stage) (acts : List Act) :
    (c.run env (.crash :: acts)).depot.tally = c.depot.tally ∧
      (c.run env (.crash :: acts)).deliveries = c.deliveries.modifyLast (·.crash) := by
  have hover : (c.step env .crash).depot.phase.isOver = true := by
    simp [step, Depot.act, Depot.crash, h, Phase.isOver]
  obtain ⟨ht, hd⟩ := run_over env hover acts
  refine ⟨ht.trans ?_, hd.trans ?_⟩
  · simp [step, Depot.act, Depot.crash, Depot.closeInbox, h]
  · simp [step, recorded, h]

/-- A delivery that goes on comes to its end, is counted, and leaves the consumer to look again. -/
theorem run_delivering {k : Courier D} {e : Effect} {stage : Stage} {past : List (Delivery W D)}
    {s : Delivery W D} (h : c.depot.phase = .delivering k e stage) (hs : c.deliveries = past ++ [s])
    {acts : List Act} (ha : .crash ∉ acts) (hn : stage.left ≤ acts.count .proceed) :
    ∃ l k' r s', l <+: acts ∧ (c.run env l).depot.phase = .idle k' ∧
      (c.run env l).depot.tally = c.depot.tally.count r ∧
      (c.run env l).deliveries = past ++ [s'] ∧ s'.effect = s.effect ∧ s'.status = .ended r := by
  induction acts generalizing c k stage s with
  | nil => cases stage <;> cases hn
  | cons a acts ih =>
    obtain ⟨hne, hacts⟩ := List.ne_and_not_mem_of_not_mem_cons ha
    by_cases hp : a = .proceed
    · subst hp
      rw [List.count_cons_self] at hn
      rcases hk : k.proceed env stage e c.world with ⟨p, k', w⟩
      have hstep : c.step env .proceed =
          ⟨c.depot.reached e p k', w, c.answers, past ++ [s.reached p w]⟩ := by
        simp only [step, Depot.act, Depot.proceed, answered, recorded, h, hk, hs, List.modifyLast_concat]
      cases p with
      | next stage' =>
        have hleft := Courier.left_lt_of_proceed hk
        have hphase : (c.step env .proceed).depot.phase = .delivering k' e stage' :=
          congrArg (·.depot.phase) hstep
        have htally : (c.step env .proceed).depot.tally = c.depot.tally := congrArg (·.depot.tally) hstep
        obtain ⟨l, k'', r, s', hl, hi, ht, hd, he, hr⟩ :=
          ih hphase (congrArg (·.deliveries) hstep) hacts (by omega)
        rw [htally] at ht
        exact ⟨.proceed :: l, k'', r, s', List.cons_prefix_cons.2 ⟨rfl, hl⟩, hi, ht, hd, he, hr⟩
      | ended r =>
        exact ⟨[.proceed], k', r, s.reached (.ended r) w, ⟨acts, rfl⟩, congrArg (·.depot.phase) hstep,
          congrArg (·.depot.tally) hstep, congrArg (·.deliveries) hstep, rfl, rfl⟩
    · obtain ⟨hphase, htally, hdel⟩ := step_delivering env h hp (Ne.symm hne)
      rw [List.count_cons_of_ne hp] at hn
      obtain ⟨l, k', r, s', hl, hi, ht, hd, he, hr⟩ := ih hphase (hdel.trans hs) hacts hn
      rw [htally] at ht
      exact ⟨a :: l, k', r, s', List.cons_prefix_cons.2 ⟨rfl, hl⟩, hi, ht, hd, he, hr⟩

theorem Paced.run {k₀ : Courier D} {w₀ : W} (h : c.Paced env k₀ w₀) (acts : List Act) :
    (c.run env acts).Paced env k₀ w₀ :=
  run_induction h (fun _ _ h hm => hm.paced h) acts

/-- The delivery that is under way, if it goes on, follows one of the routes. -/
theorem Paced.run_delivering {env : Devices W D} {c : Course (Logged W D) (Numbered D)}
    {k₀ k : Courier (Numbered D)} {j₀ : Logged W D} {e : Effect} {stage : Stage} {acts : List Act}
    (h : c.Paced env.logged k₀ j₀) (hs : (k₀.standing j₀).Sound)
    (hk : c.depot.phase = .delivering k e stage) (ha : .crash ∉ acts)
    (hn : stage.left ≤ acts.count .proceed) :
    ∃ l k' r s, l <+: acts ∧ (c.run env.logged l).depot.phase = .idle k' ∧
      (c.run env.logged l).depot.tally = c.depot.tally.count r ∧
      (c.run env.logged l).deliveries = c.deliveries.dropLast ++ [s] ∧ s.effect = e ∧
      s.status = .ended r ∧ Route k₀.preferred e s.standing s.errands r := by
  have hp := h
  unfold Paced at hp
  rw [hk] at hp
  obtain ⟨past, s, hdel, rfl, -, -⟩ := hp.last
  obtain ⟨l, k', r, s', hl, hidle, ht, hd, he, hr⟩ := Course.run_delivering hk hdel ha hn
  have hrec : s'.Recorded k₀.preferred := ((h.run l).recorded hs).1 s' (by rw [hd]; simp)
  obtain ⟨b, hi⟩ := hrec.itinerary
  rw [hr, he] at hi
  refine ⟨l, k', r, s', hl, hidle, ht, ?_, he, hr, hi.ended hrec.sound⟩
  rw [hd, hdel, List.dropLast_concat]

theorem Orderly.request_of_hasEnded {capacity : Nat} (h : c.Orderly capacity)
    (he : c.depot.phase.hasEnded = true) (n : Int64) :
    (c.depot.request n).1 = if Effect.Names n then .dropped else .rejected := by
  have hclosed : c.depot.inbox.isClosed = true := h.closed.trans he
  have hroom : ¬ c.depot.inbox.HasRoom := fun hr => Bool.noConfusion (hclosed.symm.trans hr.1)
  have hr : (c.depot.request n).1 = (c.depot.inbox.request n).1 := rfl
  rw [hr, Inbox.request_fst, if_neg hroom]

theorem step_not_pending (h : c.depot.phase.isPending = false) (a : Act) :
    (c.step env a).depot.phase.isPending = false := by
  have ht := step_turn env c a
  generalize c.depot.phase = p, (c.step env a).depot.phase = q at ht h
  cases ht with
  | stay => exact h
  | start | give_up => cases h
  | wait | heed | take | advance | deliver | crash | leave | join => rfl

theorem consumers_of_not_pending (h : c.depot.phase.isPending = false) (acts : List Act) :
    c.consumers env acts = 0 := by
  induction acts generalizing c with
  | nil => rfl
  | cons a acts ih => simp [consumers, h, ih (step_not_pending h a)]

theorem consumers_cons {a : Act} (ha : a ≠ .start) (acts : List Act) :
    c.consumers env (a :: acts) = (c.step env a).consumers env acts := by
  simp [consumers, ha]

theorem step_pending (env : Devices W D) {k : Courier D} {a : Act} (h : c.depot.phase = .pending k)
    (ha : a ≠ .start) :
    (c.step env a).depot.phase = .pending k ∨ (c.step env a).depot.phase = .gone := by
  have ht := step_turn env c a
  rw [h] at ht
  generalize (c.step env a).depot.phase = q at ht
  cases ht with
  | stay => exact .inl rfl
  | start hs => exact absurd hs ha
  | wait _ _ hp | heed _ _ hp => rcases hp with hp | hp <;> cases hp
  | give_up => exact .inr rfl

/-- One consumer is started at most, and none can be there unless it was. -/
theorem consumers_of_pending {k : Courier D} (h : c.depot.phase = .pending k) (acts : List Act) :
    c.consumers env acts ≤ 1 ∧
      ((c.run env acts).depot.phase.isConsuming = true → c.consumers env acts = 1) := by
  induction acts generalizing c with
  | nil =>
    refine ⟨Nat.zero_le _, fun hc => ?_⟩
    rw [run, List.foldl_nil, h] at hc
    cases hc
  | cons a acts ih =>
    by_cases ha : a = .start
    · subst ha
      have hs : (c.step env .start).depot.phase.isPending = false := by
        simp [step, Depot.act, Depot.start, h, Phase.isPending]
      simp [consumers, h, Phase.isPending, consumers_of_not_pending hs]
    · rw [consumers_cons ha]
      rcases step_pending env h ha with hk | hg
      · exact ih hk
      · have hgone : (c.run env (a :: acts)).depot.phase = .gone := (run_gone env hg acts).1
        rw [consumers_of_not_pending (by rw [hg]; rfl), hgone]
        exact ⟨Nat.zero_le _, fun hc => by cases hc⟩

/-- When a depot was stopped, all that was taken has been delivered or abandoned. -/
theorem Stopped.processed {k₀ : Courier D} {w : W} {d : Depot D} {acts : List Act}
    (h : Stopped env (start d w) acts) (hp : d.phase = .pending k₀) (ht : d.tally = ⟨0, 0⟩) :
    ((start d w).run env acts).depot.tally.processed = ((start d w).run env acts).started.length := by
  obtain ⟨before, after, hacts, hcrash, -, hgone⟩ := h
  have hrun : (start d w).run env acts = ((start d w).run env (before ++ [.join])).run env after := by
    rw [← run_append, hacts, List.append_cons]
  obtain ⟨hphase, -, hdel⟩ := run_gone env hgone after
  rw [← hrun] at hphase hdel
  have htally := run_tallied env w hp ht acts
  have hunderway : ((start d w).run env acts).deliveries.countP (·.isUnderway) = 0 := by
    have hfilter := (run_pace env w hp acts).filter_isUnderway
    rw [Depot.inFlight?, hphase] at hfilter
    rw [List.countP_eq_length_filter, List.map_eq_nil_iff.1 hfilter, List.length_nil]
  have hcrashed : ((start d w).run env acts).deliveries.countP (·.hasCrashed) = 0 := by
    rw [hdel]
    refine List.countP_eq_zero.2 fun s hs => ?_
    simp [run_hasCrashed (c := start d w) (by simp [hcrash]) (by simp [start]) s hs]
  have hlen := Delivery.length_eq_countP ((start d w).run env acts).deliveries
  rw [hunderway, hcrashed, ← htally.delivered, ← htally.abandoned] at hlen
  rw [started, List.length_map, hlen]
  rfl

/-- Before the consumer takes an effect, it has looked and was not told to stop; after the signal at most
one more is taken, if it has looked before the signal and not since, and after the look that follows none.
Devices play only the effects that were taken. A consumer that has seen the signal delivers nothing any
more. A delivery that is under way is not cut short: if it goes on, it comes to its end by one of the routes
and is counted; only if a device brings the consumer down it is not, and nothing is taken or played any more.
Once a depot is gone, the devices are not asked for anything, and requests are dropped or rejected. A depot
starts one consumer at most. -/
theorem run_stops (env : Devices W D) {capacity : Nat} {preferred : Option Connection}
    {device : Option D} {d : Depot (Numbered D)}
    (hd : Depot.ofCapacity? capacity preferred (device.map (Numbered.mk 0)) = some d) (w : W)
    (before after : List Act) :
    let c₀ := start d (Logged.start w)
    let c := c₀.run env.logged before
    let c' := c.run env.logged after
    ((c.step env.logged .take).started ≠ c.started → ∃ k, c₀.HasLooked env.logged before k) ∧
    (c.depot.isStopping = true →
      (c'.started = c.started ∨ ∃ k e past later, c₀.HasLooked env.logged before k ∧
        c.depot.phase = .waiting k ∧ after = past ++ .take :: later ∧ .look ∉ past ∧
        c'.started = c.started ++ [e]) ∧
      ∀ past later, after = past ++ .look :: later → c'.started = (c.run env.logged past).started) ∧
    (c'.plays = c'.deliveries.flatMap (·.plays) ∧ ∀ s ∈ c'.deliveries, ∀ e ∈ s.plays, e = s.effect) ∧
    (∀ k, c.depot.phase = .leaving k →
      c'.started = c.started ∧ c'.plays = c.plays ∧ c'.depot.tally = c.depot.tally) ∧
    (∀ k e stage, c.depot.phase = .delivering k e stage → .crash ∉ after →
      stage.left ≤ after.count .proceed →
      ∃ l k' r s, l <+: after ∧ (c.run env.logged l).depot.phase = .idle k' ∧
        (c.run env.logged l).depot.tally = c.depot.tally.count r ∧
        (c.run env.logged l).deliveries = c.deliveries.dropLast ++ [s] ∧ s.effect = e ∧
        s.status = .ended r ∧ Route preferred e s.standing s.errands r) ∧
    (∀ k e stage later, c.depot.phase = .delivering k e stage → after = .crash :: later →
      c'.started = c.started ∧ c'.plays = c.plays ∧ c'.depot.tally = c.depot.tally) ∧
    (Stopped env.logged c₀ before → c.depot.tally.processed = c.started.length) ∧
    (c.depot.phase = .gone → c'.world = c.world ∧ c'.plays = c.plays ∧
      ∀ n : Int64, (c'.depot.request n).1 =
        if 0 ≤ n.toInt ∧ n.toInt ≤ 15 then .dropped else .rejected) ∧
    c₀.consumers env.logged before ≤ 1 ∧
      (c.depot.phase.isConsuming = true → c₀.consumers env.logged before = 1) := by
  intro c₀ c c'
  obtain ⟨hl, hpend, htally⟩ := Ledger.of_ofCapacity? hd
  have hpend₀ : c₀.depot.phase = .pending (.new preferred (device.map (Numbered.mk 0))) := hpend
  have hsound := Courier.standing_new preferred device w
  have hpace : c.Paced env.logged _ _ := run_pace env.logged (Logged.start w) hpend before
  have hpace' : c'.Paced env.logged _ _ := hpace.run after
  have hplays : c'.deliveries.flatMap (·.plays) = c.deliveries.flatMap (·.plays) → c'.plays = c.plays := by
    intro h
    rw [plays_eq hpace hsound, plays_eq hpace' hsound, h]
  have hlooked : ∀ k, c.depot.phase = .waiting k → c₀.HasLooked env.logged before k :=
    fun k hk => hasLooked_of_waiting (by rw [hpend₀]; simp) hk
  refine ⟨fun hne => ?_, fun hs => ⟨?_, fun past later ha => ?_⟩, ⟨plays_eq hpace' hsound, fun s hm => ?_⟩,
    fun k hk => ?_, fun k e stage hk ha hn => hpace.run_delivering hsound hk ha hn,
    fun k e stage later hk ha => ?_, fun hs => hs.processed hpend htally, fun hg => ?_,
    consumers_of_pending hpend₀ before⟩
  · rcases step_started env.logged c .take with h | ⟨-, k, -, hk, -⟩
    · exact absurd h hne
    · exact ⟨k, hlooked k hk⟩
  · rcases run_signalled hs after with h | ⟨k, e, past, later, hk, h⟩
    · exact .inl h
    · exact .inr ⟨k, e, past, later, hlooked k hk, hk, h⟩
  · rw [show c' = (c.run env.logged past).run env.logged (.look :: later) by
      rw [← run_append, ← ha]]
    exact run_look (run_isStopping hs past) later
  · exact fun e he => ((hpace'.recorded hsound).1 s hm).eq_of_mem_plays he
  · obtain ⟨ht, hdel⟩ := run_over env.logged (c := c) (by rw [hk]; rfl) after
    exact ⟨congrArg (List.map _) hdel, hplays (congrArg _ hdel), ht⟩
  · obtain ⟨ht, hdel⟩ := run_crash env.logged hk later
    rw [← ha] at ht hdel
    refine ⟨?_, hplays ?_, ht⟩
    · exact (congrArg _ hdel).trans (map_effect_modifyLast c.deliveries fun _ => rfl)
    · exact (congrArg _ hdel).trans (flatMap_modifyLast c.deliveries Delivery.plays_crash)
  · obtain ⟨hg', hw, hdel⟩ := run_gone env.logged hg after
    have horder := run_orderly env.logged hl (Logged.start w) (before ++ after)
    rw [run_append] at horder
    exact ⟨hw, hplays (congrArg _ hdel), horder.request_of_hasEnded (by rw [hg']; rfl)⟩

/-- The signal comes while one effect is under way, whose device is lost then, and another one waits. -/
theorem run_stops_in_flight :
    let before := [Act.request 3, .start, .look, .take, .request 4, .signal]
    let after := [Act.proceed, .proceed, .proceed, .look]
    ∃ d, Depot.ofCapacity? 1 none (some ⟨0, ()⟩) = some d ∧
      let c₀ := start d (Logged.start [.error .notOpen])
      let c := c₀.run Devices.scripted.logged before
      let c' := c.run Devices.scripted.logged after
      c.depot.inbox.waiting = [⟨4⟩] ∧ c.depot.isStopping = true ∧
        c'.world.errands = [.play 0 ⟨3⟩ (.error .notOpen), .close 0 (.ok ()), .find none (some 1),
          .acquire 1 (.ok ()), .play 1 ⟨3⟩ (.ok .written)] ∧
        c'.depot.tally = ⟨1, 0⟩ ∧
        (∃ l k' r s, l <+: after ∧ (c.run Devices.scripted.logged l).depot.phase = .idle k' ∧
          (c.run Devices.scripted.logged l).deliveries = c.deliveries.dropLast ++ [s] ∧
          s.status = .ended r ∧ Route none ⟨3⟩ s.standing s.errands r) ∧
        c'.started = (c.run Devices.scripted.logged [.proceed, .proceed, .proceed]).started ∧
        c₀.consumers Devices.scripted.logged before = 1 := by
  intro before after
  have hd : Depot.ofCapacity? 1 none (Option.map (Numbered.mk 0) (some ())) =
    some ⟨⟨1, [], false, 0, 0⟩, ⟨0, 0⟩, .pending ⟨none, some ⟨0, ()⟩, 0⟩, false, false, 0⟩ := rfl
  obtain ⟨-, hsignal, -, -, hflight, -, -, -, -, hone⟩ :=
    run_stops Devices.scripted hd [.error .notOpen] before after
  refine ⟨_, hd, ?_⟩
  intro c₀ c c'
  have hp : c.depot.phase = .delivering ⟨none, some ⟨0, ()⟩, 0⟩ ⟨3⟩ .first := rfl
  obtain ⟨l, k', r, s, hl, hidle, -, hdel, -, hr, hroute⟩ := hflight _ _ _ hp (by decide) (by decide)
  exact ⟨rfl, rfl, rfl, rfl, ⟨l, k', r, s, hl, hidle, hdel, hr, hroute⟩,
    (hsignal rfl).2 [.proceed, .proceed, .proceed] [] rfl, hone rfl⟩

/-- A consumer that has looked before the signal takes what is asked for after it, or was waiting then, and a
device plays it. And a device that brings the consumer down after the signal leaves the effect that it was
playing uncounted. -/
theorem run_stops_late :
    ∃ d, Depot.ofCapacity? 1 none (some ⟨0, ()⟩) = some d ∧
      let c₀ := start d (Logged.start [])
      let run := Course.run Devices.scripted.logged
      let asked := run c₀ [.start, .look, .signal]
      let queued := run c₀ [.request 3, .start, .look, .signal]
      let flying := run c₀ [.request 3, .start, .look, .take, .signal]
      (asked.depot.isStopping = true ∧ asked.depot.inbox.waiting = [] ∧ asked.plays = [] ∧
        (run asked [.request 3, .take, .proceed]).answers = [(3, .accepted)] ∧
        (run asked [.request 3, .take, .proceed]).plays = [⟨3⟩] ∧
        (run asked [.request 3, .take, .proceed]).depot.tally = ⟨1, 0⟩) ∧
      (queued.depot.isStopping = true ∧ queued.depot.inbox.waiting = [⟨3⟩] ∧ queued.plays = [] ∧
        (run queued [.take, .proceed]).plays = [⟨3⟩] ∧
        (run queued [.take, .proceed]).depot.tally = ⟨1, 0⟩) ∧
      (flying.depot.isStopping = true ∧ flying.depot.inFlight? = some ⟨3⟩ ∧
        (run flying [.crash, .join]).depot.phase = .gone ∧
        (run flying [.crash, .join]).plays = [⟨3⟩] ∧
        (run flying [.crash, .join]).depot.tally = ⟨0, 0⟩) ∧
      ¬ ∀ before after : List Act, (run c₀ before).depot.isStopping = true →
        ((run (run c₀ before) after).deliveries.drop (run c₀ before).deliveries.length).flatMap
          (·.plays) = [] := by
  have hd : Depot.ofCapacity? 1 none (Option.map (Numbered.mk 0) (some ())) =
    some ⟨⟨1, [], false, 0, 0⟩, ⟨0, 0⟩, .pending ⟨none, some ⟨0, ()⟩, 0⟩, false, false, 0⟩ := rfl
  refine ⟨_, hd, ⟨rfl, rfl, rfl, rfl, rfl, rfl⟩, ⟨rfl, rfl, rfl, rfl, rfl⟩, ⟨rfl, rfl, rfl, rfl, rfl⟩,
    fun h => ?_⟩
  exact List.cons_ne_nil _ _ (h [.start, .look, .signal] [.request 3, .take, .proceed] rfl)

end Course

end Haptics
