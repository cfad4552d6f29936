import Haptics.Proofs.Delivery.Journey

/-!
# The ledger of a depot

Every request that was accepted was taken, or waits, or was discarded when the inbox was closed
(`Course.Orderly`), and every effect that was taken was delivered or abandoned, or is under way. So the
counts of a depot balance at any time (`Course.run_balanced`).
-/

namespace Haptics

open Courier (Stage Progress)

namespace Effect

def Names (n : Int64) : Prop := 0 ≤ n.toInt ∧ n.toInt ≤ 15

instance (n : Int64) : Decidable (Names n) := by unfold Names; infer_instance

theorem ofNumber_of_names {n : Int64} (h : Names n) : ∃ e, ofNumber n = .ok e :=
  ⟨_, dif_pos h⟩

theorem ofNumber_of_not_names {n : Int64} (h : ¬ Names n) : ofNumber n = .error (.effectOutOfRange n) :=
  dif_neg h

end Effect

namespace Inbox

variable {i : Inbox} {n : Int64} {e : Effect}

def HasRoom (i : Inbox) : Prop := i.isClosed = false ∧ i.waiting.length < i.capacity

instance (i : Inbox) : Decidable i.HasRoom := by unfold HasRoom; infer_instance

theorem request_of_error {err : WireError} (h : Effect.ofNumber n = .error err) :
    i.request n = (.rejected, i) := by
  simp [request, h]

theorem request_of_room (h : Effect.ofNumber n = .ok e) (hr : i.HasRoom) :
    i.request n = (.accepted, { i with waiting := i.waiting ++ [e], accepted := i.accepted + 1 }) := by
  simp [request, h, hr.1, hr.2]

theorem request_of_no_room (h : Effect.ofNumber n = .ok e) (hr : ¬ i.HasRoom) :
    i.request n = (.dropped, { i with dropped := i.dropped + 1 }) := by
  have hr : i.isClosed = true ∨ i.capacity ≤ i.waiting.length := by
    unfold HasRoom at hr
    cases hc : i.isClosed
    · exact .inr (by simpa [hc] using hr)
    · exact .inl rfl
  simp [request, h, hr]

/-- A request is rejected if its number is out of range, accepted if there is room, and dropped
otherwise. -/
theorem request_fst (i : Inbox) (n : Int64) :
    (i.request n).1 =
      if Effect.Names n then if i.HasRoom then .accepted else .dropped else .rejected := by
  by_cases hn : Effect.Names n
  · obtain ⟨e, he⟩ := Effect.ofNumber_of_names hn
    by_cases hr : i.HasRoom
    · rw [request_of_room he hr, if_pos hn, if_pos hr]
    · rw [request_of_no_room he hr, if_pos hn, if_neg hr]
  · rw [request_of_error (Effect.ofNumber_of_not_names hn), if_neg hn]

end Inbox

/-- Whether the consumer takes nothing any more. -/
def Phase.hasEnded {D : Type} : Phase D → Bool
  | ended _ | gone => true
  | _ => false

theorem Phase.hasEnded_of_resting {D : Type} {p : Phase D} {k : Courier D} (h : p.resting? = some k) :
    p.hasEnded = false := by
  cases p <;> first | rfl | cases h

/-- The effect that was promised by an answer. -/
def promised? : Int64 × Receipt → Option Effect
  | (n, .accepted) => (Effect.ofNumber n).toOption
  | _ => none

def promised (answers : List (Int64 × Receipt)) : List Effect := answers.filterMap promised?

/-- The number of requests for an effect that were dropped. -/
def refused (answers : List (Int64 × Receipt)) : Nat :=
  answers.countP fun a => Effect.Names a.1 ∧ a.2 = .dropped

/-- Every effect that was promised was taken, waits or was discarded, and so in this order. -/
structure Ledger {D : Type} (capacity : Nat) (d : Depot D) (answers : List (Int64 × Receipt))
    (taken : List Effect) : Prop where
  capacity_eq : d.inbox.capacity = capacity
  waiting_le : d.inbox.waiting.length ≤ capacity
  closed : d.inbox.isClosed = d.phase.hasEnded
  order : ∃ gone, gone.length = d.discarded ∧ (d.inbox.isClosed = false → gone = []) ∧
    promised answers = taken ++ d.inbox.waiting ++ gone
  accepted_eq : d.inbox.accepted = (promised answers).length
  dropped_eq : d.inbox.dropped = refused answers

namespace Ledger

variable {D : Type} {capacity : Nat} {d d' : Depot D} {answers : List (Int64 × Receipt)}
  {taken : List Effect}

theorem of_ofCapacity? {preferred : Option Connection} {device : Option D}
    (hd : Depot.ofCapacity? capacity preferred device = some d) :
    Ledger (max capacity 1) d [] [] ∧ d.phase = .pending (.new preferred device) ∧ d.tally = ⟨0, 0⟩ := by
  unfold Depot.ofCapacity? Inbox.ofCapacity? at hd
  split at hd
  · obtain rfl := Option.some.inj hd
    exact ⟨⟨rfl, Nat.zero_le _, rfl, ⟨[], rfl, fun _ => rfl, rfl⟩, rfl, rfl⟩, rfl, rfl⟩
  · cases hd

theorem request (h : Ledger capacity d answers taken) (n : Int64) :
    Ledger capacity (d.request n).2 (answers ++ [(n, (d.request n).1)]) taken := by
  obtain ⟨gone, hgone, hopen, horder⟩ := h.order
  have hp : ∀ r, promised (answers ++ [(n, r)]) = promised answers ++ (promised? (n, r)).toList := by
    intro r
    simp only [promised, List.filterMap_append, List.append_cancel_left_eq]
    cases hr : promised? (n, r) <;> simp [hr]
  have hq : ∀ r, refused (answers ++ [(n, r)]) =
      refused answers + if Effect.Names n ∧ r = .dropped then 1 else 0 := by
    intro r
    simp [refused, List.countP_append, List.countP_singleton]
  unfold Depot.request
  by_cases hn : Effect.Names n
  · obtain ⟨e, he⟩ := Effect.ofNumber_of_names hn
    by_cases hroom : d.inbox.HasRoom
    · rw [Inbox.request_of_room he hroom]
      have ha : promised? (n, .accepted) = some e := by simp [promised?, he, Except.toOption]
      obtain rfl := hopen hroom.1
      refine ⟨h.capacity_eq, ?_, h.closed, ⟨[], hgone, fun _ => rfl, ?_⟩, ?_, ?_⟩
      · have := hroom.2
        rw [h.capacity_eq] at this
        simpa using Nat.succ_le_of_lt this
      · rw [hp, ha, horder]; simp
      · rw [hp, ha]; simp [h.accepted_eq]
      · rw [hq, if_neg (by simp)]; exact h.dropped_eq
    · rw [Inbox.request_of_no_room he hroom]
      refine ⟨h.capacity_eq, h.waiting_le, h.closed, ⟨gone, hgone, hopen, ?_⟩, ?_, ?_⟩
      · rw [hp]; simpa [promised?] using horder
      · rw [hp]; simpa [promised?] using h.accepted_eq
      · rw [hq, if_pos ⟨hn, rfl⟩]; exact congrArg (· + 1) h.dropped_eq
  · rw [Inbox.request_of_error (Effect.ofNumber_of_not_names hn)]
    refine ⟨h.capacity_eq, h.waiting_le, h.closed, ⟨gone, hgone, hopen, ?_⟩, ?_, ?_⟩
    · rw [hp]; simpa [promised?] using horder
    · rw [hp]; simpa [promised?] using h.accepted_eq
    · rw [hq, if_neg (by simp)]; exact h.dropped_eq

/-- Nothing that does not concern the inbox matters, as long as it does not end the consumer. -/
theorem quiet (h : Ledger capacity d answers taken) (hi : d'.inbox = d.inbox)
    (hd : d'.discarded = d.discarded) (hp : d'.phase.hasEnded = d.phase.hasEnded) :
    Ledger capacity d' answers taken := by
  obtain ⟨h1, h2, h3, h4, h5, h6⟩ := h
  exact ⟨by rw [hi, h1], by rw [hi]; exact h2, by rw [hi, hp, h3], by rw [hi, hd]; exact h4,
    by rw [hi, h5], by rw [hi, h6]⟩

theorem take {k : Courier D} {e : Effect} {rest : List Effect} (h : Ledger capacity d answers taken)
    (hp : d.phase = .waiting k) (hw : d.inbox.waiting = e :: rest) :
    Ledger capacity
      { d with inbox := { d.inbox with waiting := rest }, phase := .delivering k e k.begin }
      answers (taken ++ [e]) := by
  obtain ⟨gone, hgone, hopen, horder⟩ := h.order
  have hle := h.waiting_le
  rw [hw] at hle horder
  refine ⟨h.capacity_eq, Nat.le_of_succ_le hle, ?_, ⟨gone, hgone, hopen, ?_⟩, h.accepted_eq, h.dropped_eq⟩
  · rw [show d.inbox.isClosed = false by rw [h.closed, hp]; rfl]; rfl
  · simpa using horder

/-- What waits is discarded when the inbox is closed. -/
theorem close (h : Ledger capacity d answers taken) (ho : d.phase.hasEnded = false)
    (hi : d'.inbox = d.closeInbox.inbox) (hd : d'.discarded = d.closeInbox.discarded)
    (hp : d'.phase.hasEnded = true) : Ledger capacity d' answers taken := by
  obtain ⟨gone, hgone, hopen, horder⟩ := h.order
  obtain rfl := hopen (h.closed.trans ho)
  refine ⟨by rw [hi]; exact h.capacity_eq, by rw [hi]; exact Nat.zero_le _, by rw [hi, hp]; rfl,
    ⟨d.inbox.waiting, ?_, ?_, ?_⟩, by rw [hi]; exact h.accepted_eq, by rw [hi]; exact h.dropped_eq⟩
  · rw [hd, Depot.closeInbox, ← hgone]; simp
  · rw [hi]; intro hc; cases hc
  · rw [hi, horder]; simp [Depot.closeInbox, Inbox.close]

end Ledger

namespace Course

variable {W D : Type} {env : Devices W D} {capacity : Nat} {c c' : Course W D}

/-- The effects of the requests that were accepted, in order. -/
def accepted (c : Course W D) : List Effect := promised c.answers

/-- The effects that were taken, in order. -/
def started (c : Course W D) : List Effect := c.deliveries.map (·.effect)

def Orderly (capacity : Nat) (c : Course W D) : Prop := Ledger capacity c.depot c.answers c.started

theorem map_effect_modifyLast (ss : List (Delivery W D)) {f : Delivery W D → Delivery W D}
    (hf : ∀ s, (f s).effect = s.effect) : (ss.modifyLast f).map (·.effect) = ss.map (·.effect) := by
  rcases List.eq_nil_or_concat ss with rfl | ⟨past, s, rfl⟩
  · rfl
  · rw [List.concat_eq_append, List.modifyLast_concat]; simp [hf]

theorem Move.orderly (hm : Move env c c') (h : c.Orderly capacity) : c'.Orderly capacity := by
  unfold Orderly started at h ⊢
  cases hm with
  | nothing => exact h
  | request n => exact h.request n
  | quiet hi ht hd hp =>
    refine h.quiet hi hd ?_
    rcases hp with hp | ⟨k, hk, hk'⟩
    · exact congrArg _ hp
    · rw [Phase.hasEnded_of_resting hk, Phase.hasEnded_of_resting hk']
  | take hp hw =>
    have := h.take hp hw
    simpa using this
  | @proceed k k' e stage p w hp hk =>
    dsimp only
    rw [map_effect_modifyLast c.deliveries (f := (·.reached p w)) fun _ => rfl]
    cases p <;> exact h.quiet rfl rfl (by rw [hp]; rfl)
  | crash hp =>
    dsimp only
    rw [map_effect_modifyLast c.deliveries (f := (·.crash)) fun _ => rfl]
    exact h.close (by rw [hp]; rfl) rfl rfl rfl
  | close hp hi ht hd hq =>
    refine h.close (Phase.hasEnded_of_resting hp) hi hd ?_
    rcases hq with ⟨hq, -⟩ | ⟨hq, -⟩ | ⟨hq, -⟩ <;> dsimp only <;> rw [hq] <;> rfl
  | release hp => exact h.quiet rfl rfl (by rw [hp]; rfl)

theorem run_orderly (env : Devices W D) {d : Depot D} (h : Ledger capacity d [] []) (w : W)
    (acts : List Act) : ((start d w).run env acts).Orderly capacity :=
  run_induction (P := Orderly capacity) (c := start d w) h (fun _ _ h hm => hm.orderly h) acts

/-- The effects that were taken are the first of those that were accepted. -/
theorem Orderly.started_isPrefix (h : c.Orderly capacity) : c.started <+: c.accepted := by
  obtain ⟨gone, -, -, heq⟩ := h.order
  exact ⟨c.depot.inbox.waiting ++ gone, by rw [← List.append_assoc]; exact heq.symm⟩

end Course

end Haptics
