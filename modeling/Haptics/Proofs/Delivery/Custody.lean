import Haptics.Proofs.Delivery.Finish
import Haptics.Proofs.Delivery.Leg

/-!
# Custody of the device

A rule for what is true of the device that a courier holds and the world around it. `Devices.Guards` asks
of each call that it leaves what the next one needs: a search a device to be opened, an opening one to be
played, and a play that loses its device one to be closed. Then no stage of a delivery breaks it
(`Guards.proceed`), and it is true after every run (`Course.run_guarded`).
-/

namespace Haptics

open Courier (Stage Progress)

variable {W D : Type}

theorem Logged.forall_mem_note {P : Line W D → Prop} {j : Logged W D} {x : Errand} {d : Option D} {w : W}
    (h : ∀ y ∈ j.lines, P y) (hx : P ⟨x, d, j.world, w⟩) : ∀ y ∈ (j.note x d w).lines, P y := by
  intro y hy
  rcases List.mem_append.1 hy with hy | hy
  · exact h y hy
  · rw [List.mem_singleton.1 hy]; exact hx

namespace Devices

section
variable {env : Devices W D} {c : Option Connection} {d d' : Numbered D} {j j' : Logged W D}

theorem logged_find_none (h : env.logged.find c j = (none, j')) :
    ∃ w, env.find c j.world = (none, w) ∧ j' = j.note (.find c none) none w := by
  rcases hr : env.find c j.world with ⟨_ | d, w⟩ <;> simp only [logged, hr] at h <;> cases h
  exact ⟨w, rfl, rfl⟩

theorem logged_find_some (h : env.logged.find c j = (some d, j')) :
    ∃ d₁ w, env.find c j.world = (some d₁, w) ∧ d = ⟨j.known, d₁⟩ ∧
      j' = { j.note (.find c (some j.known)) (some d₁) w with known := j.known + 1 } := by
  rcases hr : env.find c j.world with ⟨_ | d₁, w⟩ <;> simp only [logged, hr] at h <;> cases h
  exact ⟨d₁, w, rfl, rfl, rfl⟩

theorem logged_acquire {r : Except DeviceError Unit} (h : env.logged.acquire d j = (r, d', j')) :
    ∃ d₁ w, env.acquire d.device j.world = (r, d₁, w) ∧ d' = ⟨d.number, d₁⟩ ∧
      j' = j.note (.acquire d.number r) (some d.device) w := by
  rcases hr : env.acquire d.device j.world with ⟨r₁, d₁, w⟩
  simp only [logged, hr] at h
  cases h
  exact ⟨d₁, w, rfl, rfl, rfl⟩

theorem logged_play {e : Effect} {r : Except DeviceError Outcome}
    (h : env.logged.play d e j = (r, d', j')) :
    ∃ d₁ w, env.play d.device e j.world = (r, d₁, w) ∧ d' = ⟨d.number, d₁⟩ ∧
      j' = j.note (.play d.number e r) (some d.device) w := by
  rcases hr : env.play d.device e j.world with ⟨r₁, d₁, w⟩
  simp only [logged, hr] at h
  cases h
  exact ⟨d₁, w, rfl, rfl, rfl⟩

theorem logged_close (env : Devices W D) (d : Numbered D) (j : Logged W D) :
    (env.logged.close d j).2.2 = j.note (.close d.number (env.close d.device j.world).1) (some d.device)
      (env.close d.device j.world).2.2 := rfl

end

/-- `held` is true of the world and the device that is held in it, if any. A device is `found` until it
was opened, and `lost` from the play by which it is lost until it was closed. -/
structure Guards (env : Devices W D) (held : Option D → W → Prop) (found lost : D → W → Prop) : Prop where
  missing : ∀ {c w w'}, held none w → env.find c w = (none, w') → held none w'
  find : ∀ {c d w w'}, held none w → env.find c w = (some d, w') → found d w'
  refused : ∀ {d d' err w w'}, found d w → env.acquire d w = (.error err, d', w') → held none w'
  acquire : ∀ {d d' w w'}, found d w → env.acquire d w = (.ok (), d', w') → held (some d') w'
  played : ∀ {d d' e o w w'}, held (some d) w → env.play d e w = (.ok o, d', w') → held (some d') w'
  failed : ∀ {d d' e err w w'}, held (some d) w → env.play d e w = (.error err, d', w') →
    err.losesDevice = false → held (some d') w'
  lose : ∀ {d d' e err w w'}, held (some d) w → env.play d e w = (.error err, d', w') →
    err.losesDevice = true → lost d' w'
  give_up : ∀ {d w}, held (some d) w → lost d w
  close : ∀ {d w}, lost d w → held none (env.close d w).2.2

/-- If the line is of a play, the device that was asked to play was held then. -/
def PlaysHeld (env : Devices W D) (held : Option D → W → Prop) (x : Line W D) : Prop :=
  ∀ n e r, x.errand = .play n e r →
    ∃ d d', x.device = some d ∧ held (some d) x.before ∧ env.play d e x.before = (r, d', x.after)

namespace Guards

variable {env : Devices W D} {held : Option D → W → Prop} {found lost : D → W → Prop} {k : Courier D}
  {w : W}

theorem discard (g : env.Guards held found lost) (hn : k.device = none → held none w)
    (hs : ∀ d, k.device = some d → lost d w) :
    held none (k.discard env w).2 ∧ (k.discard env w).1.device = none := by
  rcases hk : k.device with _ | d
  · rw [Courier.discard_of_none hk]; exact ⟨hn hk, rfl⟩
  · rw [Courier.discard_of_some hk]; exact ⟨g.close (hs d hk), rfl⟩

theorem discard_of_lost {d : D} (g : env.Guards held found lost) (hk : k.device = some d) (hd : lost d w) :
    held (k.discard env w).1.device (k.discard env w).2 := by
  rw [Courier.discard_of_some hk]
  exact g.close hd

theorem afterFailure {d : D} {err : DeviceError} (g : env.Guards held found lost) (hk : k.device = some d)
    (hl : err.losesDevice = true → lost d w) (hh : err.losesDevice = false → held (some d) w) :
    held (k.afterFailure env err w).1.device (k.afterFailure env err w).2 := by
  cases hloss : err.losesDevice with
  | true =>
    rw [Courier.afterFailure_of_loses hloss]
    exact g.discard_of_lost hk (hl hloss)
  | false =>
    have hd := hh hloss
    cases ht : err.isTransport with
    | false =>
      rw [Courier.afterFailure_of_other hloss ht, hk]
      exact hd
    | true =>
      rw [Courier.afterFailure_of_transport ht]
      split
      · rw [hk]; exact hd
      · exact g.discard_of_lost (k := { k with failures := k.failures + 1 }) hk (g.give_up hd)

theorem send (g : env.Guards held found lost) (e : Effect) (h : held k.device w) :
    held (k.send env e w).2.1.device (k.send env e w).2.2 := by
  rcases hk : k.device with _ | d
  · have hs : k.send env e w = (.error .notOpen, k, w) := by simp only [Courier.send, hk]
    rw [hs]; exact h
  · rw [hk] at h
    rcases hp : env.play d e w with ⟨err | o, d', w'⟩
    · rw [Courier.send_of_error hk hp]
      exact g.afterFailure rfl (g.lose h hp) (g.failed h hp)
    · rw [Courier.send_of_ok hk hp]
      exact g.played h hp

theorem replace (g : env.Guards held found lost) (h : held k.device w) :
    held (k.replace env w).2.1.device (k.replace env w).2.2 := by
  obtain ⟨hd, hnone⟩ := g.discard (k := k) (w := w) (fun hn => hn ▸ h) fun d hs => g.give_up (hs ▸ h)
  unfold Courier.replace
  rcases hdk : k.discard env w with ⟨k', w₁⟩
  rw [hdk] at hd hnone
  dsimp only at hd hnone ⊢
  rcases hf : env.find k'.preferred w₁ with ⟨_ | d, w₂⟩
  · dsimp only
    rw [hnone]; exact g.missing hd hf
  · have hfound := g.find hd hf
    rcases ha : env.acquire d w₂ with ⟨err | _, d', w₃⟩ <;> simp only [ha]
    · rw [hnone]; exact g.refused hfound ha
    · exact g.acquire hfound ha

theorem proceed (g : env.Guards held found lost) (stage : Stage) (e : Effect) (h : held k.device w) :
    held (k.proceed env stage e w).2.1.device (k.proceed env stage e w).2.2 := by
  by_cases hs : stage = .search
  · rw [hs, Courier.proceed_search]
    exact g.replace h
  · rw [Courier.proceed_send hs]
    exact g.send e h

theorem release (g : env.Guards held found lost) (h : held k.device w) : held none (k.release env w) := by
  unfold Courier.release
  rcases hk : k.device with _ | d <;> rw [hk] at h
  · exact h
  · exact g.close (g.give_up h)

/-- The rule for devices with a log: then every play in it is of a device that was held. -/
theorem logged (g : env.Guards held found lost) :
    env.logged.Guards
      (fun d j => held (d.map (·.device)) j.world ∧ ∀ x ∈ j.lines, PlaysHeld env held x)
      (fun d j => found d.device j.world ∧ ∀ x ∈ j.lines, PlaysHeld env held x)
      (fun d j => lost d.device j.world ∧ ∀ x ∈ j.lines, PlaysHeld env held x) := by
  have hplay : ∀ {d : Numbered D} {j : Logged W D} {e r d₁ w}, held (some d.device) j.world →
      (∀ x ∈ j.lines, PlaysHeld env held x) → env.play d.device e j.world = (r, d₁, w) →
      ∀ x ∈ (j.note (.play d.number e r) (some d.device) w).lines, PlaysHeld env held x := by
    intro d j e r d₁ w hheld hl hr
    refine Logged.forall_mem_note hl fun n e' r' he => ?_
    cases he
    exact ⟨_, _, rfl, hheld, hr⟩
  refine ⟨?missing, ?find, ?refused, ?acquire, ?played, ?failed, ?lose, ?give_up, ?close⟩
  case missing =>
    rintro c j j' ⟨h, hl⟩ hf
    obtain ⟨w, hr, rfl⟩ := logged_find_none hf
    exact ⟨g.missing h hr, Logged.forall_mem_note hl (by rintro n e r ⟨⟩)⟩
  case find =>
    rintro c d j j' ⟨h, hl⟩ hf
    obtain ⟨d₁, w, hr, rfl, rfl⟩ := logged_find_some hf
    exact ⟨g.find h hr, Logged.forall_mem_note hl (by rintro n e r ⟨⟩)⟩
  case refused =>
    rintro d d' err j j' ⟨h, hl⟩ ha
    obtain ⟨d₁, w, hr, rfl, rfl⟩ := logged_acquire ha
    exact ⟨g.refused h hr, Logged.forall_mem_note hl (by rintro n e r ⟨⟩)⟩
  case acquire =>
    rintro d d' j j' ⟨h, hl⟩ ha
    obtain ⟨d₁, w, hr, rfl, rfl⟩ := logged_acquire ha
    exact ⟨g.acquire h hr, Logged.forall_mem_note hl (by rintro n e r ⟨⟩)⟩
  case played =>
    rintro d d' e o j j' ⟨h, hl⟩ hp
    obtain ⟨d₁, w, hr, rfl, rfl⟩ := logged_play hp
    exact ⟨g.played h hr, hplay h hl hr⟩
  case failed =>
    rintro d d' e err j j' ⟨h, hl⟩ hp hk
    obtain ⟨d₁, w, hr, rfl, rfl⟩ := logged_play hp
    exact ⟨g.failed h hr hk, hplay h hl hr⟩
  case lose =>
    rintro d d' e err j j' ⟨h, hl⟩ hp hk
    obtain ⟨d₁, w, hr, rfl, rfl⟩ := logged_play hp
    exact ⟨g.lose h hr hk, hplay h hl hr⟩
  case give_up =>
    rintro d j ⟨h, hl⟩
    exact ⟨g.give_up h, hl⟩
  case close =>
    rintro d j ⟨h, hl⟩
    rw [logged_close]
    exact ⟨g.close h, Logged.forall_mem_note hl (by rintro n e r ⟨⟩)⟩

end Guards

end Devices

namespace Course

variable {env : Devices W D} {held : Option D → W → Prop} {found lost : D → W → Prop} {c c' : Course W D}

/-- `held` is true of the courier's device, as long as there is a courier, and of something afterwards. -/
structure Guarded (held : Option D → W → Prop) (c : Course W D) : Prop where
  courier : ∀ k, c.depot.phase.courier? = some k → held k.device c.world
  world : ∃ o, held o c.world

theorem Guarded.of_courier {k : Courier D} (hk : c.depot.phase.courier? = some k)
    (h : held k.device c.world) : c.Guarded held :=
  ⟨fun _ hk' => Option.some.inj (hk.symm.trans hk') ▸ h, _, h⟩

theorem Guarded.of_none (hk : c.depot.phase.courier? = none) (h : ∃ o, held o c.world) : c.Guarded held :=
  ⟨fun _ hk' => absurd (hk.symm.trans hk') (by simp), h⟩

theorem Move.guarded (hm : Move env c c') (g : env.Guards held found lost) (h : c.Guarded held) :
    c'.Guarded held := by
  cases hm with
  | nothing | request => exact ⟨h.courier, h.world⟩
  | quiet _ _ _ hp =>
    rcases hp with hp | ⟨k, hk, hk'⟩
    · exact ⟨fun k hk => h.courier k (hp ▸ hk), h.world⟩
    · exact .of_courier (Phase.courier?_of_resting? hk') (h.courier k (Phase.courier?_of_resting? hk))
  | @take k e rest hp hw => exact .of_courier (k := k) rfl (h.courier k (by rw [hp]; rfl))
  | @proceed k k' e stage p w hp hpr =>
    have hd := g.proceed stage e (h.courier k (by rw [hp]; rfl))
    rw [hpr] at hd
    exact .of_courier (k := k') (by cases p <;> rfl) hd
  | crash => exact .of_none rfl h.world
  | @close d k w hp _ _ _ hq =>
    have hk := h.courier k (Phase.courier?_of_resting? hp)
    rcases hq with ⟨hq, rfl⟩ | ⟨hq, rfl⟩ | ⟨hq, rfl⟩
    · exact .of_courier (k := k) (by dsimp only; rw [hq]; rfl) hk
    · exact .of_none (by dsimp only; rw [hq]; rfl) h.world
    · exact .of_none (by dsimp only; rw [hq]; rfl) ⟨none, g.release hk⟩
  | @release k hp =>
    refine .of_none rfl ?_
    cases k with
    | none => exact h.world
    | some k => exact ⟨none, g.release (h.courier k (by rw [hp]; rfl))⟩

/-- What the calls on the devices hand on is true after every run, of the device that is held then. -/
theorem run_guarded (g : env.Guards held found lost) (h : c.Guarded held) (acts : List Act) :
    (c.run env acts).Guarded held :=
  run_induction h (fun _ _ h hm => hm.guarded g h) acts

theorem Stopped.guarded {acts : List Act} (hs : Stopped env c acts) (g : env.Guards held found lost)
    (h : c.Guarded held) (hc : c.depot.phase ≠ .ended none) : held none (c.run env acts).world := by
  obtain ⟨before, k, hk, hw⟩ := hs.release hc
  rw [hw]
  exact g.release ((run_guarded g h before).courier k hk)

end Course

end Haptics
