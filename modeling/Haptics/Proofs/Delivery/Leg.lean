import Haptics.Proofs.Delivery.Log

/-!
# The stages of a delivery

`Leg` lists what a courier can do at one stage of a delivery, seen through the log: its errands, how far
the delivery has come then, and what the courier holds. `Courier.proceed_advances` says that it does
nothing else.
-/

namespace Haptics

namespace DeviceError

def isTransport : DeviceError → Bool
  | transport _ => true
  | _ => false

theorem losesDevice_of_isTransport {err : DeviceError} (h : err.isTransport = true) :
    err.losesDevice = false := by
  cases err <;> first | rfl | cases h

end DeviceError

/-- What a courier holds, as the log tells it. -/
structure Standing where
  /-- The number of the device. -/
  held : Option Nat
  failures : Nat
  /-- The number that the next device found will have. -/
  next : Nat

namespace Standing

/-- The stage that a delivery begins with. -/
def begin (a : Standing) : Courier.Stage :=
  match a.held with
  | some _ => .first
  | none => .search

/-- At most one failure is counted, only against a device that is held, and that device is known. -/
structure Sound (a : Standing) : Prop where
  failures_le : a.failures ≤ 1
  failures_none : a.held = none → a.failures = 0
  held_lt : ∀ n, a.held = some n → n < a.next

/-- A device is held for a send and none for a search. -/
def Fits (a : Standing) (stage : Courier.Stage) : Prop := a.held = none ↔ stage = .search

theorem fits_begin (a : Standing) : a.Fits a.begin := by
  unfold Fits begin
  cases a.held <;> simp

end Standing

namespace Courier

variable {W D : Type}

def standing (k : Courier (Numbered D)) (j : Logged W D) : Standing :=
  ⟨k.device.map (·.number), k.failures, j.known⟩

theorem begin_standing (k : Courier (Numbered D)) (j : Logged W D) : (k.standing j).begin = k.begin := by
  unfold Standing.begin begin standing
  cases k.device <;> rfl

theorem standing_new (preferred : Option Connection) (device : Option D) (w : W) :
    ((Courier.new preferred (device.map (Numbered.mk 0))).standing (Logged.start w)).Sound :=
  ⟨Nat.zero_le _, fun _ => rfl, fun n hn => by
    cases device <;> simp_all [standing, new, Logged.start]⟩

def Stage.after (stage : Stage) (r : Except DeviceError Outcome) : Progress :=
  match stage, r with
  | first, .error err => if err.losesDevice then .next .search else .ended (.error err)
  | _, r => .ended r

theorem Stage.after_ok (stage : Stage) (o : Outcome) : stage.after (.ok o) = .ended (.ok o) := by
  cases stage <;> rfl

theorem Stage.after_error_of_keeps (stage : Stage) {err : DeviceError} (h : err.losesDevice = false) :
    stage.after (.error err) = .ended (.error err) := by
  cases stage <;> simp [after, h]

theorem proceed_send {stage : Stage} (hs : stage ≠ .search) (env : Devices W D) (k : Courier D)
    (e : Effect) (w : W) :
    k.proceed env stage e w = (stage.after (k.send env e w).1, (k.send env e w).2) := by
  unfold proceed
  cases stage with
  | first => rcases k.send env e w with ⟨_ | _, k', w'⟩ <;> rfl
  | search => exact absurd rfl hs
  | last => rfl

end Courier

open Courier (Stage Progress)

/-- One stage in the delivery of `e` by a courier whose searches are limited to `c`. -/
inductive Leg (c : Option Connection) (e : Effect) :
    Standing → Stage → List Errand → Progress → Standing → Prop where
  | played {n f m stage o} (hs : stage ≠ .search) :
    Leg c e ⟨some n, f, m⟩ stage [.play n e (.ok o)] (.ended (.ok o)) ⟨some n, 0, m⟩
  | kept {n f m stage err} (hs : stage ≠ .search) (hl : err.losesDevice = false)
      (ht : err.isTransport = false) :
    Leg c e ⟨some n, f, m⟩ stage [.play n e (.error err)] (.ended (.error err)) ⟨some n, f, m⟩
  | counted {n m stage err} (hs : stage ≠ .search) (ht : err.isTransport = true) :
    Leg c e ⟨some n, 0, m⟩ stage [.play n e (.error err)] (.ended (.error err)) ⟨some n, 1, m⟩
  | dropped {n f m stage err r} (hs : stage ≠ .search) (ht : err.isTransport = true) (hf : 0 < f) :
    Leg c e ⟨some n, f, m⟩ stage [.play n e (.error err), .close n r] (.ended (.error err)) ⟨none, 0, m⟩
  | lost {n f m stage err r} (hs : stage ≠ .search) (hl : err.losesDevice = true) :
    Leg c e ⟨some n, f, m⟩ stage [.play n e (.error err), .close n r] (stage.after (.error err)) ⟨none, 0, m⟩
  | missing {f m} : Leg c e ⟨none, f, m⟩ .search [.find c none] (.ended (.error .notFound)) ⟨none, 0, m⟩
  | refused {f m err} :
    Leg c e ⟨none, f, m⟩ .search [.find c (some m), .acquire m (.error err)] (.ended (.error err))
      ⟨none, 0, m + 1⟩
  | found {f m} :
    Leg c e ⟨none, f, m⟩ .search [.find c (some m), .acquire m (.ok ())] (.next .last)
      ⟨some m, 0, m + 1⟩

namespace Leg

variable {c : Option Connection} {e : Effect} {a b : Standing} {stage : Stage} {l : List Errand}
  {p : Progress}

theorem sound (h : Leg c e a stage l p b) (ha : a.Sound) : b.Sound := by
  obtain ⟨hf, -, hn⟩ := ha
  cases h with
  | played | counted => exact ⟨by simp, by simp, hn⟩
  | kept => exact ⟨hf, by simp, hn⟩
  | missing | refused | dropped | lost | found => exact ⟨by simp, by simp, by simp⟩

theorem fits {next : Stage} (h : Leg c e a stage l (.next next) b) : b.Fits next := by
  generalize hp : Progress.next next = p at h
  cases h with
  | played | kept | counted | dropped | missing | refused => cases hp
  | lost _ hl =>
    cases stage <;> simp only [Stage.after, hl, ↓reduceIte, Progress.next.injEq, reduceCtorEq] at hp
    subst hp
    exact iff_of_true rfl rfl
  | found => cases hp; exact iff_of_false (by simp) (by simp)

end Leg

namespace Courier

variable {W D : Type}

section
variable {env : Devices W D} {k : Courier D} {d d' : D} {e : Effect} {w w' : W} {err : DeviceError}

theorem send_of_ok {o : Outcome} (hk : k.device = some d) (hp : env.play d e w = (.ok o, d', w')) :
    k.send env e w = (.ok o, { k with device := some d', failures := 0 }, w') := by
  simp [send, hk, hp]

theorem send_of_error (hk : k.device = some d) (hp : env.play d e w = (.error err, d', w')) :
    k.send env e w = (.error err, afterFailure env { k with device := some d' } err w') := by
  simp [send, hk, hp]

theorem discard_of_some (hk : k.device = some d) :
    k.discard env w = ({ k with device := none, failures := 0 }, (env.close d w).2.2) := by
  simp [discard, hk]

theorem discard_of_none (hk : k.device = none) :
    k.discard env w = ({ k with device := none, failures := 0 }, w) := by
  simp [discard, hk]

theorem afterFailure_of_loses (hl : err.losesDevice = true) :
    k.afterFailure env err w = k.discard env w := by
  simp [afterFailure, hl]

theorem afterFailure_of_other (hl : err.losesDevice = false) (ht : err.isTransport = false) :
    k.afterFailure env err w = (k, w) := by
  cases err <;> simp_all [afterFailure, DeviceError.losesDevice, DeviceError.isTransport]

theorem afterFailure_of_transport (ht : err.isTransport = true) :
    k.afterFailure env err w =
      if k.failures = 0 then ({ k with failures := 1 }, w)
      else ({ k with failures := k.failures + 1 } : Courier D).discard env w := by
  obtain ⟨x, rfl⟩ : ∃ x, err = .transport x := by
    cases err <;> first | exact ⟨_, rfl⟩ | cases ht
  simp only [afterFailure, DeviceError.losesDevice, failureLimit, Bool.false_eq_true, ↓reduceIte]
  by_cases hf : k.failures = 0
  · simp [hf]
  · simp [hf, show 2 ≤ k.failures + 1 by omega]

end

variable {env : Devices W D} {k : Courier (Numbered D)} {j : Logged W D} {e : Effect}

theorem standing_of_some {d : Numbered D} (hk : k.device = some d) :
    k.standing j = ⟨some d.number, k.failures, j.known⟩ := by
  simp [standing, hk]

theorem standing_of_none (hk : k.device = none) : k.standing j = ⟨none, k.failures, j.known⟩ := by
  simp [standing, hk]

/-- The courier and the log move on by the lines `l`, as a leg of the delivery of `e` allows. -/
structure Advances (e : Effect) (k : Courier (Numbered D)) (j : Logged W D) (stage : Stage)
    (l : List (Line W D)) (p : Progress) (k' : Courier (Numbered D)) (j' : Logged W D) : Prop where
  lines : j'.lines = j.lines ++ l
  preferred : k'.preferred = k.preferred
  leg : Leg k.preferred e (k.standing j) stage (l.map (·.errand)) p (k'.standing j')

/-- A send is one play, and a close if it costs the device. -/
theorem send_advances {d : Numbered D} {stage : Stage} {r : Except DeviceError Outcome}
    {k' : Courier (Numbered D)} {j' : Logged W D} (hk : k.device = some d) (hs : stage ≠ .search)
    (h : k.send env.logged e j = (r, k', j')) : ∃ l, Advances e k j stage l (stage.after r) k' j' := by
  have ha : k.standing j = ⟨some d.number, k.failures, j.known⟩ := standing_of_some hk
  rcases hp : env.play d.device e j.world with ⟨err | o, d', w'⟩
  · have hlog : env.logged.play d e j =
        (.error err, ⟨d.number, d'⟩, j.note (.play d.number e (.error err)) (some d.device) w') := by
      simp only [Devices.logged, hp]
    rw [send_of_error hk hlog] at h
    cases hl : err.losesDevice with
    | true =>
      rw [afterFailure_of_loses hl, discard_of_some rfl] at h
      cases h
      refine ⟨_, List.append_assoc .., rfl, ?_⟩
      rw [ha]; exact .lost hs hl
    | false =>
      cases ht : err.isTransport with
      | false =>
        rw [afterFailure_of_other hl ht] at h
        cases h
        refine ⟨_, rfl, rfl, ?_⟩
        rw [ha, Stage.after_error_of_keeps stage hl]; exact .kept hs hl ht
      | true =>
        rw [afterFailure_of_transport ht] at h
        split at h
        · rename_i hf
          cases h
          refine ⟨_, rfl, rfl, ?_⟩
          rw [ha, Stage.after_error_of_keeps stage hl, show k.failures = 0 from hf]
          exact .counted hs ht
        · rename_i hf
          rw [discard_of_some rfl] at h
          cases h
          refine ⟨_, List.append_assoc .., rfl, ?_⟩
          rw [ha, Stage.after_error_of_keeps stage hl]
          exact .dropped hs ht (Nat.pos_of_ne_zero hf)
  · have hlog : env.logged.play d e j =
        (.ok o, ⟨d.number, d'⟩, j.note (.play d.number e (.ok o)) (some d.device) w') := by
      simp only [Devices.logged, hp]
    rw [send_of_ok hk hlog] at h
    cases h
    refine ⟨_, rfl, rfl, ?_⟩
    rw [ha, Stage.after_ok]; exact .played hs

def afterSearch : Except DeviceError Unit → Progress
  | .ok () => .next .last
  | .error err => .ended (.error err)

theorem proceed_search (env : Devices W D) (k : Courier D) (e : Effect) (w : W) :
    k.proceed env .search e w = (afterSearch (k.replace env w).1, (k.replace env w).2) := by
  unfold proceed
  rcases k.replace env w with ⟨_ | _, k', w'⟩ <;> rfl

/-- A search without a device is one find, and an opening if something was found. -/
theorem replace_advances {r : Except DeviceError Unit} {k' : Courier (Numbered D)} {j' : Logged W D}
    (hk : k.device = none) (h : k.replace env.logged j = (r, k', j')) :
    ∃ l, Advances e k j .search l (afterSearch r) k' j' := by
  have ha : k.standing j = ⟨none, k.failures, j.known⟩ := standing_of_none hk
  unfold replace at h
  -- there is nothing left to give up: the device that was lost is closed already
  rw [discard_of_none hk] at h
  rcases hf : env.find k.preferred j.world with ⟨_ | d, w⟩
  · simp only [Devices.logged, hf] at h
    cases h
    refine ⟨_, rfl, rfl, ?_⟩
    rw [ha]; exact .missing
  · rcases hq : env.acquire d w with ⟨err | _, d', w'⟩
    · simp only [Devices.logged, hf, Logged.world_note, hq] at h
      cases h
      refine ⟨_, List.append_assoc .., rfl, ?_⟩
      rw [ha]; exact .refused
    · simp only [Devices.logged, hf, Logged.world_note, hq] at h
      cases h
      refine ⟨_, List.append_assoc .., rfl, ?_⟩
      rw [ha]; exact .found

/-- A courier does at each stage what some leg says, and nothing else. -/
theorem proceed_advances {stage : Stage} {p : Progress} {k' : Courier (Numbered D)} {j' : Logged W D}
    (hs : (k.standing j).Fits stage) (h : k.proceed env.logged stage e j = (p, k', j')) :
    ∃ l, Advances e k j stage l p k' j' := by
  rcases hk : k.device with _ | d
  · obtain rfl : stage = .search := hs.1 (by simp [standing, hk])
    rw [proceed_search] at h
    obtain ⟨rfl, hr⟩ := Prod.mk.inj h
    exact replace_advances hk (Prod.ext rfl hr)
  · have hne : stage ≠ .search := fun he => by simpa [standing, hk] using hs.2 he
    rw [proceed_send hne] at h
    obtain ⟨rfl, hr⟩ := Prod.mk.inj h
    exact send_advances hk hne (Prod.ext rfl hr)

end Courier

end Haptics
