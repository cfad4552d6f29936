import Haptics.Proofs.Delivery.Ledger
import Haptics.Proofs.Delivery.Logbook
import Mathlib.Data.List.DropRight

/-!
# Transport failures

What a courier counts is what the log says of the device that it holds: the transport failures of this device
since it was obtained or, later, played successfully (`failuresOf`). So no device answers for another one, and
each is given up at its second such failure (`Course.run_failures`).
-/

namespace Haptics

open Courier (Stage Progress)

namespace Errand

/-- Whether the device `n` is obtained by this, or played successfully. -/
def renews (n : Nat) : Errand → Bool
  | acquire m (.ok ()) | play m _ (.ok _) => m == n
  | _ => false

/-- Whether this is a transport failure of the device `n`. -/
def stalls (n : Nat) : Errand → Bool
  | play m _ (.error err) => m == n && err.isTransport
  | _ => false

end Errand

/-- The transport failures of the device `n` after the last errand by which it was obtained or played. -/
def failuresOf (n : Nat) (l : List Errand) : Nat := (l.rtakeWhile (!·.renews n)).countP (·.stalls n)

section
variable {n : Nat} {l : List Errand} {x : Errand}

theorem failuresOf_renewed (h : x.renews n = true) : failuresOf n (l ++ [x]) = 0 := by
  rw [failuresOf, List.rtakeWhile_concat_neg _ _ _ (by simp [h])]
  rfl

theorem failuresOf_concat (h : x.renews n = false) :
    failuresOf n (l ++ [x]) = failuresOf n l + if x.stalls n then 1 else 0 := by
  rw [failuresOf, List.rtakeWhile_concat_pos _ _ _ (by simp [h]), List.countP_append, List.countP_singleton]
  rfl

theorem failuresOf_stalled (h : x.stalls n = true) : failuresOf n (l ++ [x]) = failuresOf n l + 1 := by
  have hx : x.renews n = false := by
    unfold Errand.stalls at h
    split at h
    · rfl
    · cases h
  rw [failuresOf_concat hx, if_pos h]

end

/-! ### What is counted -/

/-- The failures counted are those of the device that is held. -/
def Standing.Counts (a : Standing) (l : List Errand) : Prop := ∀ n, a.held = some n → a.failures = failuresOf n l

section
variable {c : Option Connection} {e : Effect} {a b : Standing} {past l : List Errand} {p : Progress}

theorem Leg.counts {stage : Stage} (h : Leg c e a stage l p b) (ha : a.Counts past) : b.Counts (past ++ l) := by
  intro n hn
  cases h with
  | played =>
    obtain rfl := Option.some.inj hn
    exact (failuresOf_renewed (by simp [Errand.renews])).symm
  | @kept _ f _ _ err _ _ ht =>
    obtain rfl := Option.some.inj hn
    have hf : f = failuresOf _ past := ha _ rfl
    rw [failuresOf_concat (by simp [Errand.renews]), ← hf]
    simp [Errand.stalls, ht]
  | counted _ ht =>
    obtain rfl := Option.some.inj hn
    have hf : 0 = failuresOf _ past := ha _ rfl
    rw [failuresOf_stalled (by simp [Errand.stalls, ht]), ← hf]
  | dropped | lost | missing | refused => cases hn
  | found =>
    obtain rfl := Option.some.inj hn
    rw [List.append_cons]
    exact (failuresOf_renewed (by simp [Errand.renews])).symm

theorem Itinerary.counts (h : Itinerary c e a l p b) (ha : a.Counts past) : b.Counts (past ++ l) := by
  induction h with
  | begin => rwa [List.append_nil]
  | leg _ hl ih =>
    rw [← List.append_assoc]
    exact hl.counts ih

end

/-! ### What comes of a failure -/

section
variable {α : Type} {P : List α → α → List α → Prop}

theorem forall_split_nil : (∀ before x after, [] = before ++ x :: after → P before x after) ↔ True :=
  iff_of_true (fun before x after h => by simp at h) trivial

theorem forall_split_cons {y : α} {l : List α} :
    (∀ before x after, y :: l = before ++ x :: after → P before x after) ↔
      P [] y l ∧ ∀ before x after, l = before ++ x :: after → P (y :: before) x after := by
  constructor
  · intro h
    exact ⟨h [] y l rfl, fun before x after hl => h (y :: before) x after (by rw [hl]; rfl)⟩
  · rintro ⟨hfirst, hrest⟩ before x after h
    cases before with
    | nil =>
      obtain ⟨rfl, rfl⟩ := List.cons.inj h
      exact hfirst
    | cons z before =>
      obtain ⟨rfl, hl⟩ := List.cons.inj h
      exact hrest before x after hl

theorem forall_split_append {l l' : List α}
    (h : ∀ before x after, l = before ++ x :: after → P before x (after ++ l'))
    (h' : ∀ before x after, l' = before ++ x :: after → P (l ++ before) x after) :
    ∀ before x after, l ++ l' = before ++ x :: after → P before x after := by
  induction l generalizing P with
  | nil => exact h'
  | cons y l ih =>
    obtain ⟨hfirst, hrest⟩ := forall_split_cons.1 h
    exact forall_split_cons.2 ⟨hfirst, ih hrest h'⟩

end

/-- What comes of the errand `x` of a delivery, with `past` done before it and `rest` done after it in the same
delivery. Nothing is done after a transport failure, but that the device is closed if this was its second
one; and only a device that has just failed is closed. -/
def Resolved (past : List Errand) (x : Errand) (rest : List Errand) : Prop :=
  match x with
  | .play n _ (.error err) => err.isTransport = true →
      failuresOf n (past ++ [x]) = 1 ∧ rest = [] ∨ failuresOf n (past ++ [x]) = 2 ∧ ∃ r, rest = [.close n r]
  | .close n _ => ∃ before e err, past = before ++ [.play n e (.error err)] ∧
      (err.losesDevice = true ∨ err.isTransport = true)
  | _ => True

section
variable {c : Option Connection} {e : Effect} {a : Standing} {past l : List Errand}
  {r : Except DeviceError Outcome} {err : DeviceError}

theorem DeviceError.isTransport_of_losesDevice (h : err.losesDevice = true) : err.isTransport = false := by
  cases err <;> first | rfl | cases h

theorem resolved_of_loses {n : Nat} (h : err.losesDevice = true) (past rest : List Errand) :
    Resolved past (.play n e (.error err)) rest := by
  intro ht
  rw [DeviceError.isTransport_of_losesDevice h] at ht
  cases ht

theorem resolved_close {n : Nat} {answer : Except DeviceError Unit}
    (h : err.losesDevice = true ∨ err.isTransport = true) (past rest : List Errand) :
    Resolved (past ++ [.play n e (.error err)]) (.close n answer) rest :=
  ⟨past, e, err, rfl, h⟩

theorem Lead.resolved (h : Lead e a l) (past more : List Errand) :
    ∀ before x after, l = before ++ x :: after → Resolved (past ++ before) x (after ++ more) := by
  cases h with
  | unheld => exact forall_split_nil.2 trivial
  | lost _ hl =>
    simp only [forall_split_cons, forall_split_nil, and_true]
    exact ⟨resolved_of_loses hl _ _, resolved_close (.inl hl) _ _⟩

theorem Retry.resolved {m : Nat} (h : Retry c e m l r) (past : List Errand) :
    ∀ before x after, l = before ++ x :: after → Resolved (past ++ before) x after := by
  cases h with
  | missing | refused | played =>
    simp only [forall_split_cons, forall_split_nil, and_true]
    simp [Resolved]
  | kept =>
    simp only [forall_split_cons, forall_split_nil, and_true]
    refine ⟨trivial, trivial, fun ht => .inl ⟨?_, rfl⟩⟩
    -- the device has just been opened, so this is its first failure
    rw [failuresOf_stalled (by simp [Errand.stalls, ht]), List.append_cons,
      failuresOf_renewed (by simp [Errand.renews])]
  | lost hl =>
    simp only [forall_split_cons, forall_split_nil, and_true]
    refine ⟨trivial, trivial, resolved_of_loses hl _ _, ?_⟩
    rw [List.append_cons, List.append_cons]
    exact resolved_close (.inl hl) _ _

theorem Route.resolved (h : Route c e a l r) (hs : a.Sound) (ha : a.Counts past) :
    ∀ before x after, l = before ++ x :: after → Resolved (past ++ before) x after := by
  cases h with
  | played =>
    simp only [forall_split_cons, forall_split_nil, and_true]
    trivial
  | @kept n err hheld _ hd =>
    simp only [forall_split_cons, forall_split_nil, and_true, List.append_nil]
    refine fun ht => .inl ⟨?_, rfl⟩
    have hle := hs.failures_le
    have hf := ha n hheld
    rw [failuresOf_stalled (by simp [Errand.stalls, ht]), ← hf]
    have hne : a.failures ≠ 1 := fun he => hd ⟨ht, he⟩
    omega
  | @dropped n err answer hheld hd =>
    obtain ⟨ht, hone⟩ := hd
    simp only [forall_split_cons, forall_split_nil, and_true, List.append_nil]
    refine ⟨fun _ => .inr ⟨?_, answer, rfl⟩, resolved_close (.inr ht) _ _⟩
    rw [failuresOf_stalled (by simp [Errand.stalls, ht]), ← ha n hheld, hone]
  | @retried lead retry _ hlead hretry =>
    refine forall_split_append (hlead.resolved past retry) fun before x after hl => ?_
    rw [← List.append_assoc]
    exact hretry.resolved (past ++ lead) before x after hl

end

namespace Delivery

variable {W D : Type} {s : Delivery (Logged W D) (Numbered D)} {c : Option Connection}

theorem Recorded.resolved (h : s.Recorded c) {past : List Errand} (ha : s.standing.Counts past) :
    ∀ before x after, s.errands = before ++ x :: after → Resolved (past ++ before) x after := by
  obtain ⟨b, hi⟩ := h.itinerary
  have hstage : ∀ stage, s.status.progress = .next stage →
      ∀ before x after, s.errands = before ++ x :: after → Resolved (past ++ before) x after := by
    intro stage hp
    rw [hp] at hi
    cases stage with
    | first =>
      rw [hi.first.1]
      exact forall_split_nil.2 trivial
    | search =>
      have hlead := hi.search.1.resolved past []
      simpa only [List.append_nil] using hlead
    | last =>
      obtain ⟨l, hl, hlead, -⟩ := hi.last
      rw [hl]
      refine forall_split_append (hlead.resolved past _) ?_
      simp only [forall_split_cons, forall_split_nil, and_true]
      exact ⟨trivial, trivial⟩
  cases hs : s.status with
  | underway stage => exact hstage stage (by rw [hs]; rfl)
  | crashed stage => exact hstage stage (by rw [hs]; rfl)
  | ended r =>
    rw [hs] at hi
    exact (hi.ended h.sound).resolved h.sound ha

end Delivery

/-! ### Every run -/

variable {W D : Type}

/-- The deliveries of a journey stand in the log one behind the other, and each begins with what was counted
until then. -/
theorem Journey.counts {env : Devices W D} {k₀ k : Courier (Numbered D)} {j₀ j : Logged W D}
    {ss : List (Delivery (Logged W D) (Numbered D))} (h : Journey env.logged k₀ j₀ ss k j)
    (ha : (k₀.standing j₀).Counts j₀.errands) :
    (k.standing j).Counts j.errands ∧
      ∀ s ∈ ss, s.standing.Counts s.before.errands ∧ s.before.errands ++ s.errands <+: j.errands := by
  induction h with
  | start => exact ⟨ha, by simp⟩
  | @served past s k _ _ hs ih =>
    obtain ⟨hcounts, hpast⟩ := ih
    obtain ⟨l, hl, -, hi⟩ := hs.itinerary
    have hsl : s.errands = l.map (·.errand) := by rw [Delivery.errands, Delivery.lines, hl, List.drop_left]
    have hlog : s.after.errands = s.before.errands ++ s.errands := by
      rw [hsl, Logged.errands, hl, List.map_append]
      rfl
    refine ⟨?_, fun s' hs' => ?_⟩
    · rw [hlog, hsl]
      exact hi.counts hcounts
    · rcases List.mem_append.1 hs' with hs' | hs'
      · obtain ⟨hc, hpre⟩ := hpast s' hs'
        exact ⟨hc, hlog ▸ hpre.trans (List.prefix_append _ _)⟩
      · obtain rfl := List.mem_singleton.1 hs'
        exact ⟨hcounts, hlog ▸ List.prefix_refl _⟩

theorem Courier.errands_release (env : Devices W D) (k : Courier (Numbered D)) (j : Logged W D) :
    j.errands <+: (k.release env.logged j).errands := by
  unfold release
  split
  · exact List.prefix_refl _
  · show j.errands <+: (Logged.note j _ _ _).errands
    rw [Logged.errands_note]
    exact List.prefix_append _ _

namespace Course

/-- After any run, the courier counts at most one failure, and none without a device. With a device, it counts the
transport failures of this one since it was obtained or, later, played successfully. In each delivery, whatever
was before, a device that fails so for the second time is closed and the delivery ends; after its first such
failure the delivery ends as well, and the device is kept. No device is closed in a delivery but one that has
just failed. -/
theorem run_failures (env : Devices W D) {capacity : Nat} {preferred : Option Connection}
    {device : Option D} {d : Depot (Numbered D)}
    (hd : Depot.ofCapacity? capacity preferred (device.map (Numbered.mk 0)) = some d) (w : W)
    (acts : List Act) :
    let c := (start d (Logged.start w)).run env.logged acts
    (∀ k, c.depot.phase.courier? = some k →
      k.failures ≤ 1 ∧ (k.device = none → k.failures = 0) ∧
        ∀ x, k.device = some x → k.failures = failuresOf x.number c.world.errands) ∧
    ∀ s ∈ c.deliveries, s.before.errands ++ s.errands <+: c.world.errands ∧
      (∀ past n e err rest, s.errands = past ++ .play n e (.error err) :: rest → err.isTransport = true →
        let failures := failuresOf n (s.before.errands ++ past ++ [.play n e (.error err)])
        failures = 1 ∧ rest = [] ∨ failures = 2 ∧ ∃ r, rest = [.close n r]) ∧
      ∀ past n r rest, s.errands = past ++ .close n r :: rest → ∃ before e err,
        s.before.errands ++ past = before ++ [.play n e (.error err)] ∧
          (err.losesDevice = true ∨ err.isTransport = true) := by
  intro c
  obtain ⟨-, hpend, -⟩ := Ledger.of_ofCapacity? hd
  have hpace := run_pace env.logged (Logged.start w) hpend acts
  have hsound := Courier.standing_new preferred device w
  have hstart : ((Courier.new preferred (device.map (Numbered.mk 0))).standing (Logged.start w)).Counts
      (Logged.start w : Logged W D).errands := fun _ _ => rfl
  refine ⟨fun k hk => ?_, fun s hs => ?_⟩
  · have hj := hpace.journey hk
    obtain ⟨-, -, -, hk'⟩ := hj.recorded hsound
    obtain ⟨hcounts, -⟩ := hj.counts hstart
    refine ⟨hk'.failures_le, fun hn => hk'.failures_none ?_, fun x hx => hcounts x.number ?_⟩
    · rw [Courier.standing_of_none hn]
    · rw [Courier.standing_of_some hx]
  · obtain ⟨k, j, hj, hw⟩ := Pace.journey hpace
    obtain ⟨hcounts, hpre⟩ := (hj.counts hstart).2 s hs
    have hres := ((hj.recorded hsound).1 s hs).resolved hcounts
    refine ⟨?_, fun past n e err rest hl => hres past _ rest hl, fun past n r rest hl => hres past _ rest hl⟩
    rcases hw with hw | hw
    · rwa [hw]
    · rw [hw]
      exact hpre.trans (k.errands_release env j)

/-- A success keeps the first device after its failure, two failures in a row cost it, and that of the device which
is found then is its first. -/
theorem run_failures_apart :
    let stall := DeviceError.transport (.other "stall")
    let replies := [.error stall, .ok .written, .error stall, .error stall, .error stall]
    let acts := [Act.request 1, .start, .look, .take, .proceed, .request 2, .look, .take, .proceed, .request 3,
      .look, .take, .proceed, .request 4, .look, .take, .proceed, .request 5, .look, .take, .proceed, .proceed]
    ∃ d k, Depot.ofCapacity? 1 none (some ⟨0, ()⟩) = some d ∧
      let c := (start d (Logged.start replies)).run Devices.scripted.logged acts
      c.depot.phase.courier? = some k ∧ k.device = some ⟨1, ()⟩ ∧
        c.world.errands = [.play 0 ⟨1⟩ (.error stall), .play 0 ⟨2⟩ (.ok .written), .play 0 ⟨3⟩ (.error stall),
          .play 0 ⟨4⟩ (.error stall), .close 0 (.ok ()), .find none (some 1), .acquire 1 (.ok ()),
          .play 1 ⟨5⟩ (.error stall)] ∧
        k.failures = 1 ∧ k.failures = failuresOf 1 c.world.errands := by
  have hd : Depot.ofCapacity? 1 none (Option.map (Numbered.mk 0) (some ())) =
    some ⟨⟨1, [], false, 0, 0⟩, ⟨0, 0⟩, .pending ⟨none, some ⟨0, ()⟩, 0⟩, false, false, 0⟩ := rfl
  -- without local names, which slow down the evaluation of the run
  dsimp only
  refine ⟨_, ⟨none, some ⟨1, ()⟩, 1⟩, hd, rfl, rfl, rfl, rfl, ?_⟩
  exact ((run_failures Devices.scripted hd _ _).1 _ rfl).2.2 ⟨1, ()⟩ rfl

end Course

end Haptics
