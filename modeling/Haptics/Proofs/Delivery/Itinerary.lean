import Haptics.Proofs.Delivery.Leg

/-!
# The errands of one delivery

An `Itinerary` joins the legs of a delivery from its beginning. `Route` lists those of the deliveries that
have ended: a search comes only after a play that lost the device, or if none was held, and the play
after it is the last.
-/

namespace Haptics

open Courier (Stage Progress)

/-- The errands in the delivery of `e` so far, by a courier with the standing `a` at its beginning. -/
inductive Itinerary (c : Option Connection) (e : Effect) (a : Standing) :
    List Errand → Progress → Standing → Prop where
  | begin : Itinerary c e a [] (.next a.begin) a
  | leg {l l' stage p b b'} (h : Itinerary c e a l (.next stage) b) (hl : Leg c e b stage l' p b') :
    Itinerary c e a (l ++ l') p b'

/-- The errands before a search. -/
inductive Lead (e : Effect) (a : Standing) : List Errand → Prop where
  | unheld (h : a.held = none) : Lead e a []
  | lost {n err r} (h : a.held = some n) (hl : err.losesDevice = true) :
    Lead e a [.play n e (.error err), .close n r]

/-- The errands from a search on, if a device that is found has the number `m`. -/
inductive Retry (c : Option Connection) (e : Effect) (m : Nat) :
    List Errand → Except DeviceError Outcome → Prop where
  | missing : Retry c e m [.find c none] (.error .notFound)
  | refused {err} : Retry c e m [.find c (some m), .acquire m (.error err)] (.error err)
  | played {o} : Retry c e m [.find c (some m), .acquire m (.ok ()), .play m e (.ok o)] (.ok o)
  | kept {err} (hl : err.losesDevice = false) :
    Retry c e m [.find c (some m), .acquire m (.ok ()), .play m e (.error err)] (.error err)
  | lost {err r} (hl : err.losesDevice = true) :
    Retry c e m [.find c (some m), .acquire m (.ok ()), .play m e (.error err), .close m r] (.error err)

/-- The errands of a whole delivery. -/
inductive Route (c : Option Connection) (e : Effect) (a : Standing) :
    List Errand → Except DeviceError Outcome → Prop where
  | played {n o} (h : a.held = some n) : Route c e a [.play n e (.ok o)] (.ok o)
  | kept {n err} (h : a.held = some n) (hl : err.losesDevice = false)
      (hd : ¬ (err.isTransport = true ∧ a.failures = 1)) :
    Route c e a [.play n e (.error err)] (.error err)
  | dropped {n err r} (h : a.held = some n) (hd : err.isTransport = true ∧ a.failures = 1) :
    Route c e a [.play n e (.error err), .close n r] (.error err)
  | retried {l l' r} (h : Lead e a l) (hr : Retry c e a.next l' r) : Route c e a (l ++ l') r

namespace Itinerary

variable {c : Option Connection} {e : Effect} {a b : Standing} {l : List Errand}

theorem sound {p : Progress} (h : Itinerary c e a l p b) (ha : a.Sound) : b.Sound := by
  induction h with
  | begin => exact ha
  | leg _ hl ih => exact hl.sound ih

theorem fits {stage : Stage} (h : Itinerary c e a l (.next stage) b) : b.Fits stage := by
  generalize hp : Progress.next stage = p at h
  cases h with
  | begin => cases hp; exact a.fits_begin
  | leg _ hl => subst hp; exact hl.fits

theorem first (h : Itinerary c e a l (.next .first) b) : l = [] ∧ b = a := by
  generalize hp : Progress.next .first = p at h
  cases h with
  | begin => exact ⟨rfl, rfl⟩
  | @leg _ _ stage _ _ _ _ hl =>
    cases hl with
    | played | kept | counted | dropped | missing | refused | found => cases hp
    | lost _ hl => cases stage <;> simp [Stage.after, hl] at hp

/-- A search begins the delivery or follows the first send, which lost the device. -/
theorem search (h : Itinerary c e a l (.next .search) b) :
    Lead e a l ∧ b.held = none ∧ b.next = a.next := by
  generalize hp : Progress.next .search = p at h
  cases h with
  | begin =>
    have ha := a.fits_begin.2 (Progress.next.inj hp).symm
    exact ⟨.unheld ha, ha, rfl⟩
  | @leg _ _ stage _ _ _ h hl =>
    cases hl with
    | played | kept | counted | dropped | missing | refused | found => cases hp
    | lost _ hl =>
      cases stage with
      | first =>
        obtain ⟨rfl, rfl⟩ := h.first
        exact ⟨.lost rfl hl, rfl, rfl⟩
      | search | last => cases hp

theorem last (h : Itinerary c e a l (.next .last) b) :
    ∃ l', l = l' ++ [.find c (some a.next), .acquire a.next (.ok ())] ∧ Lead e a l' ∧
      b = ⟨some a.next, 0, a.next + 1⟩ := by
  generalize hp : Progress.next .last = p at h
  cases h with
  | begin =>
    rcases a with ⟨_ | n, f, m⟩ <;> cases hp
  | @leg _ _ stage _ _ _ h hl =>
    cases hl with
    | played | kept | counted | dropped | missing | refused => cases hp
    | lost _ hl => cases stage <;> simp [Stage.after, hl] at hp
    | found =>
      obtain ⟨hlead, -, hn⟩ := h.search
      dsimp only at hn
      subst hn
      exact ⟨_, rfl, hlead, rfl⟩

/-- The send after a search ends the delivery. -/
theorem retried {l' : List Errand} {b' : Standing} {r : Except DeviceError Outcome}
    (h : Itinerary c e a l (.next .last) b) (hl : Leg c e b .last l' (.ended r) b') :
    Route c e a (l ++ l') r := by
  obtain ⟨l₀, rfl, hlead, rfl⟩ := h.last
  rw [List.append_assoc]
  generalize hp : Progress.ended r = p at hl
  cases hl with
  | played => cases hp; exact .retried hlead .played
  | kept _ hk => cases hp; exact .retried hlead (.kept hk)
  | counted _ ht => cases hp; exact .retried hlead (.kept (DeviceError.losesDevice_of_isTransport ht))
  | dropped _ _ hf => exact absurd hf (Nat.lt_irrefl 0)
  | lost _ hk => cases hp; exact .retried hlead (.lost hk)

/-- A delivery that has ended went one of the routes. -/
theorem ended {r : Except DeviceError Outcome} (ha : a.Sound) (h : Itinerary c e a l (.ended r) b) :
    Route c e a l r := by
  generalize hp : Progress.ended r = p at h
  cases h with
  | begin => cases hp
  | @leg l l' stage _ b _ h hl =>
    subst hp
    cases stage with
    | last => exact h.retried hl
    | search =>
      obtain ⟨hlead, -, hn⟩ := h.search
      generalize hp : Progress.ended r = p at hl
      cases hl with
      | played hs | kept hs | counted hs | dropped hs | lost hs => exact absurd rfl hs
      | missing => cases hp; exact .retried hlead .missing
      | refused => cases hp; dsimp only at hn; subst hn; exact .retried hlead .refused
      | found => cases hp
    | first =>
      obtain ⟨rfl, rfl⟩ := h.first
      generalize hp : Progress.ended r = p at hl
      cases hl with
      | played => cases hp; exact .played rfl
      | kept _ hk ht => cases hp; exact .kept rfl hk (by simp [ht])
      | counted _ ht =>
        cases hp; exact .kept rfl (DeviceError.losesDevice_of_isTransport ht) (by simp)
      | dropped _ ht hf =>
        -- the count is not 0, so it was 1 already
        have hle := ha.failures_le
        cases hp; exact .dropped rfl ⟨ht, by dsimp only at hle ⊢; omega⟩
      | lost _ hk => simp [Stage.after, hk] at hp

/-- A delivery under way goes on by the next leg. -/
theorem advance {W D : Type} {env : Devices W D} {stage : Stage} {p : Progress}
    {k k' : Courier (Numbered D)} {j j' : Logged W D}
    (h : Itinerary k.preferred e a l (.next stage) (k.standing j))
    (hp : k.proceed env.logged stage e j = (p, k', j')) :
    ∃ l', j'.lines = j.lines ++ l' ∧ k'.preferred = k.preferred ∧
      Itinerary k.preferred e a (l ++ l'.map (·.errand)) p (k'.standing j') := by
  obtain ⟨l', hl⟩ := Courier.proceed_advances h.fits hp
  exact ⟨l', hl.lines, hl.preferred, h.leg hl.leg⟩

end Itinerary

end Haptics
