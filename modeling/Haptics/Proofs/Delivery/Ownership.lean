import Haptics.Proofs.Delivery.Custody
import Haptics.Proofs.Delivery.Ledger
import Mathlib.Data.List.Nodup

/-!
# Ownership of devices

A courier has at most one device in hand: one that it has found and goes on to open, or one that it holds
(`Hand`). `Hand.Does` lists what it can ask for then, so the log is a path of such errands. What a path
says of each device is read off it in `Hand.Path.owned`: devices are only played while they are held, and
each that was obtained is closed once, before another one is looked for (`Course.run_owned`).
-/

namespace Haptics

variable {W D : Type}

namespace Errand

def device? : Errand → Option Nat
  | find .. => none
  | acquire n _ | play n _ _ | close n _ => some n

def opened? : Errand → Option Nat
  | acquire n (.ok ()) => some n
  | _ => none

def closed? : Errand → Option Nat
  | close n _ => some n
  | _ => none

theorem device?_of_opened? {x : Errand} {n : Nat} (h : x.opened? = some n) : x.device? = some n := by
  unfold opened? at h
  split at h
  · exact h
  · cases h

end Errand

/-- The device `n` was there from the start, as `first`, or was opened. -/
def Obtained (first : Option Nat) (l : List Errand) (n : Nat) : Prop :=
  first = some n ∨ n ∈ l.filterMap Errand.opened?

/-- The device `n` was obtained and has not been closed. -/
def Retained (first : Option Nat) (l : List Errand) (n : Nat) : Prop :=
  Obtained first l n ∧ n ∉ l.filterMap Errand.closed?

/-- The rules for errands that ask for devices of which `first` was there from the start. -/
structure Owned (first : Option Nat) (l : List Errand) : Prop where
  retained_unique : ∀ past rest, l = past ++ rest →
    ∀ n n', Retained first past n → Retained first past n' → n = n'
  find : ∀ past c found rest, l = past ++ .find c found :: rest → ∀ n, ¬ Retained first past n
  play : ∀ past n e r rest, l = past ++ .play n e r :: rest → Retained first past n
  refused : ∀ past n err rest, l = past ++ .acquire n (.error err) :: rest →
    ¬ Obtained first l n ∧ ∀ x ∈ past ++ rest, x.device? ≠ some n
  close : ∀ past n r rest, l = past ++ .close n r :: rest →
    Retained first past n ∧ ∀ x ∈ rest, x.device? ≠ some n
  closed_once : (l.filterMap Errand.closed?).Nodup

section
variable {first : Option Nat} {l : List Errand} {n : Nat} {x : Errand}

theorem Obtained.seen (h : Obtained first l n) : first = some n ∨ ∃ x ∈ l, x.device? = some n := by
  rcases h with h | h
  · exact .inl h
  · obtain ⟨x, hx, hn⟩ := List.mem_filterMap.1 h
    exact .inr ⟨x, hx, Errand.device?_of_opened? hn⟩

theorem obtained_concat : Obtained first (l ++ [x]) n ↔ Obtained first l n ∨ x.opened? = some n := by
  unfold Obtained
  rw [List.filterMap_append, List.mem_append, List.mem_filterMap (l := [x]), or_assoc]
  simp

theorem mem_closed_concat :
    n ∈ (l ++ [x]).filterMap Errand.closed? ↔ n ∈ l.filterMap Errand.closed? ∨ x.closed? = some n := by
  rw [List.filterMap_append, List.mem_append, List.mem_filterMap (l := [x])]
  simp

theorem retained_concat : Retained first (l ++ [x]) n ↔
    (Obtained first l n ∨ x.opened? = some n) ∧ n ∉ l.filterMap Errand.closed? ∧ x.closed? ≠ some n := by
  rw [Retained, obtained_concat, mem_closed_concat, not_or]

end

inductive Hand where
  /-- The next device that is found will have the number `next`. -/
  | empty (next : Nat)
  | found (n : Nat)
  | holding (n next : Nat)

namespace Hand

def device? : Hand → Option Nat
  | empty _ => none
  | found n | holding n _ => some n

def held? : Hand → Option Nat
  | holding n _ => some n
  | _ => none

/-- The hand of a courier that holds the device `n?`. -/
def of (n? : Option Nat) (next : Nat) : Hand :=
  match n? with
  | none => empty next
  | some n => holding n next

@[simp] theorem of_none (next : Nat) : of none next = empty next := rfl

@[simp] theorem of_some (n next : Nat) : of (some n) next = holding n next := rfl

theorem held?_of (n? : Option Nat) (next : Nat) : (of n? next).held? = n? := by
  cases n? <;> rfl

/-- Above the numbers of all devices that were asked for anything. -/
def bound : Hand → Nat
  | empty m | found m | holding _ m => m

/-- What can be asked for, and what is in hand then. -/
inductive Does : Hand → Errand → Hand → Prop where
  | nothing {m c} : Does (empty m) (.find c none) (empty m)
  | find {m c} : Does (empty m) (.find c (some m)) (found m)
  | refused {n err} : Does (found n) (.acquire n (.error err)) (empty (n + 1))
  | acquire {n} : Does (found n) (.acquire n (.ok ())) (holding n (n + 1))
  | play {n m e r} : Does (holding n m) (.play n e r) (holding n m)
  | close {n m r} : Does (holding n m) (.close n r) (empty m)

inductive Path : Hand → List Errand → Hand → Prop where
  | start {a} : Path a [] a
  | does {a b c x l} (hx : Does a x b) (h : Path b l c) : Path a (x :: l) c

/-- What is in hand after the errands `l` tells what was obtained by them and not closed. -/
structure Tells (first : Option Nat) (l : List Errand) (a : Hand) : Prop where
  lt_bound : ∀ n, (first = some n ∨ ∃ x ∈ l, x.device? = some n) → n < a.bound
  retained : ∀ n, Retained first l n ↔ a.held? = some n
  nodup : (l.filterMap Errand.closed?).Nodup

variable {first : Option Nat} {l : List Errand} {x : Errand} {a b : Hand} {n : Nat}

theorem Does.bound_le (hx : Does a x b) : a.bound ≤ b.bound := by
  cases hx <;> simp [bound]

theorem Does.device_lt (hx : Does a x b) (ha : ∀ n, a.held? = some n → n < a.bound)
    (hn : x.device? = some n) : n < b.bound := by
  cases hx with
  | nothing | find => cases hn
  | refused | acquire => obtain rfl := Option.some.inj hn; exact Nat.lt_succ_self _
  | play | close => exact ha n hn

/-- What was given up is not asked for anything any more. -/
theorem Does.untouched (hx : Does a x b) (hn : n < a.bound) (ha : a.device? ≠ some n) :
    x.device? ≠ some n ∧ n < b.bound ∧ b.device? ≠ some n := by
  cases hx with
  | nothing => exact ⟨by simp [Errand.device?], hn, ha⟩
  | @find m => exact ⟨by simp [Errand.device?], hn, fun h => Nat.ne_of_gt hn (Option.some.inj h)⟩
  | refused => exact ⟨ha, Nat.lt_succ_of_lt hn, by simp [device?]⟩
  | acquire => exact ⟨ha, Nat.lt_succ_of_lt hn, ha⟩
  | play => exact ⟨ha, hn, ha⟩
  | close => exact ⟨ha, hn, by simp [device?]⟩

namespace Tells

theorem start (hf : ∀ n, first = some n → n < 1) : Tells first [] (of first 1) := by
  cases first with
  | none => exact ⟨by simp, by simp [Retained, Obtained, of, held?], List.nodup_nil⟩
  | some n =>
    have hn := hf n rfl
    exact ⟨by simpa [bound, of] using hn, by simp [Retained, Obtained, of, held?], List.nodup_nil⟩

theorem not_closed (h : Tells first l a) (hn : a.bound ≤ n) : n ∉ l.filterMap Errand.closed? := by
  intro hc
  obtain ⟨x, hx, hxn⟩ := List.mem_filterMap.1 hc
  have hd : x.device? = some n := by
    cases x <;> first | exact hxn | cases hxn
  exact absurd (h.lt_bound n (.inr ⟨x, hx, hd⟩)) (Nat.not_lt.2 hn)

theorem held_lt (h : Tells first l a) (hn : a.held? = some n) : n < a.bound :=
  h.lt_bound n ((h.retained n).2 hn).1.seen

theorem retained_does (h : Tells first l a) (hx : Does a x b) (n : Nat) :
    Retained first (l ++ [x]) n ↔ b.held? = some n := by
  have hret : Obtained first l n ∧ n ∉ l.filterMap Errand.closed? ↔ a.held? = some n := h.retained n
  rw [retained_concat]
  cases hx with
  | nothing | find | refused | play => simpa [Errand.opened?, Errand.closed?, held?] using hret
  | @acquire m =>
    -- the device has just been found, so it was not closed before
    have hm := h.not_closed (Nat.le_refl m)
    simp only [Errand.opened?, Errand.closed?, held?, Option.some.injEq, ne_eq, reduceCtorEq,
      not_false_eq_true, and_true, iff_false, not_and_not_right] at hret ⊢
    refine ⟨fun ⟨ho, hc⟩ => ?_, fun hn => ⟨.inr hn, hn ▸ hm⟩⟩
    exact ho.resolve_left fun ho => hc (hret ho)
  | @close m _ r =>
    simp only [Errand.opened?, Errand.closed?, held?, Option.some.injEq, ne_eq, reduceCtorEq,
      or_false, iff_false, not_and, not_not] at hret ⊢
    exact fun ho hc => hret.1 ⟨ho, hc⟩

theorem nodup_does (h : Tells first l a) (hx : Does a x b) :
    ((l ++ [x]).filterMap Errand.closed?).Nodup := by
  rw [List.filterMap_append]
  cases hx with
  | nothing | find | refused | acquire | play => simpa [List.filterMap_cons, Errand.closed?] using h.nodup
  | @close m _ r =>
    have hm : m ∉ l.filterMap Errand.closed? := ((h.retained m).2 rfl).2
    exact List.concat_eq_append ▸ h.nodup.concat hm

theorem does (h : Tells first l a) (hx : Does a x b) : Tells first (l ++ [x]) b := by
  refine ⟨fun n hs => ?_, h.retained_does hx, h.nodup_does hx⟩
  have hs : (first = some n ∨ ∃ x ∈ l, x.device? = some n) ∨ x.device? = some n := by
    simpa [or_assoc, or_and_right, exists_or] using hs
  rcases hs with hs | hs
  · exact Nat.lt_of_lt_of_le (h.lt_bound n hs) hx.bound_le
  · exact hx.device_lt (fun _ => h.held_lt) hs

end Tells

namespace Path

theorem append_iff {l' : List Errand} {c : Hand} :
    Path a (l ++ l') c ↔ ∃ b, Path a l b ∧ Path b l' c := by
  induction l generalizing a with
  | nil => exact ⟨fun h => ⟨a, .start, h⟩, fun ⟨_, h, h'⟩ => by cases h; exact h'⟩
  | cons x l ih =>
    constructor
    · intro h
      cases h with
      | does hx h =>
        obtain ⟨b, h, h'⟩ := ih.1 h
        exact ⟨b, .does hx h, h'⟩
    · rintro ⟨b, h, h'⟩
      cases h with
      | does hx h => exact .does hx (ih.2 ⟨b, h, h'⟩)

theorem concat {c : Hand} (h : Path a l b) (hx : Does b x c) : Path a (l ++ [x]) c :=
  append_iff.2 ⟨b, h, .does hx .start⟩

theorem tells {past : List Errand} (h : Path a l b) (ha : Tells first past a) :
    Tells first (past ++ l) b := by
  induction h generalizing past with
  | start => rwa [List.append_nil]
  | does hx _ ih =>
    rw [List.append_cons]
    exact ih (ha.does hx)

theorem untouched (h : Path a l b) (hn : n < a.bound) (ha : a.device? ≠ some n) :
    (∀ x ∈ l, x.device? ≠ some n) ∧ b.device? ≠ some n := by
  induction h with
  | start => exact ⟨by simp, ha⟩
  | does hx _ ih =>
    obtain ⟨hxn, hb, hd⟩ := hx.untouched hn ha
    obtain ⟨hl, hc⟩ := ih hb hd
    exact ⟨List.forall_mem_cons.2 ⟨hxn, hl⟩, hc⟩

/-- An errand is done with what is in hand after those before it. -/
theorem errand {past rest : List Errand} (h : Path a l b) (ha : Tells first [] a)
    (hl : l = past ++ x :: rest) :
    ∃ a' b', Tells first past a' ∧ Does a' x b' ∧ Path b' rest b := by
  rw [hl] at h
  obtain ⟨a', hpast, h⟩ := append_iff.1 h
  cases h with
  | does hx hrest => exact ⟨a', _, hpast.tells ha, hx, hrest⟩

theorem owned (h : Path a l b) (ha : Tells first [] a) : Owned first l := by
  refine ⟨fun past rest hl n n' hn hn' => ?_, fun past c f rest hl n hn => ?_,
    fun past n e r rest hl => ?_, fun past n err rest hl => ?_, fun past n r rest hl => ?_,
    (h.tells ha).nodup⟩
  · rw [hl] at h
    obtain ⟨b', hpast, -⟩ := append_iff.1 h
    have ht := hpast.tells ha
    exact Option.some.inj (((ht.retained n).1 hn).symm.trans ((ht.retained n').1 hn'))
  · obtain ⟨a', b', ht, hx, -⟩ := h.errand ha hl
    have hh := (ht.retained n).1 hn
    cases hx <;> cases hh
  · obtain ⟨a', b', ht, hx, -⟩ := h.errand ha hl
    cases hx with
    | play => exact (ht.retained n).2 rfl
  · obtain ⟨a', b', ht, hx, hrest⟩ := h.errand ha hl
    cases hx with
    | refused =>
      -- the number of a device that has just been found is new, and it is given up at once
      have hpast : ∀ x ∈ past, x.device? ≠ some n := fun x hx hd =>
        absurd (ht.lt_bound n (.inr ⟨x, hx, hd⟩)) (Nat.lt_irrefl n)
      have hrest := (hrest.untouched (n := n) (Nat.lt_succ_self n) (by simp [device?])).1
      refine ⟨fun ho => ?_, fun x hx => (List.mem_append.1 hx).elim (hpast x) (hrest x)⟩
      rcases ho with ho | ho
      · exact absurd (ht.lt_bound n (.inl ho)) (Nat.lt_irrefl n)
      · obtain ⟨x, hx, hxn⟩ := List.mem_filterMap.1 ho
        have hd := Errand.device?_of_opened? hxn
        rw [hl] at hx
        rcases List.mem_append.1 hx with hx | hx
        · exact hpast x hx hd
        · rcases List.mem_cons.1 hx with rfl | hx
          · cases hxn
          · exact hrest x hx hd
  · obtain ⟨a', b', ht, hx, hrest⟩ := h.errand ha hl
    cases hx with
    | close =>
      have hret := (ht.retained n).2 rfl
      exact ⟨hret, (hrest.untouched (ht.held_lt rfl) (by simp [device?])).1⟩

end Path

end Hand

namespace Devices

/-- Devices that are found by every search and answer openings and plays from a list. -/
def cued : Devices (List (Except DeviceError Outcome)) Unit where
  find _ w := (some (), w)
  acquire d w := ((w.headD (.ok .written)).map fun _ => (), d, w.tail)
  play d _ w := (w.headD (.ok .written), d, w.tail)
  close d w := (.ok (), d, w)

theorem path_play {env : Devices W D} {a : Hand} {d d' : Numbered D} {e : Effect} {j j' : Logged W D}
    {r : Except DeviceError Outcome} (h : a.Path j.errands (.holding d.number j.known))
    (hp : env.logged.play d e j = (r, d', j')) : a.Path j'.errands (.holding d'.number j'.known) := by
  obtain ⟨d₁, w, -, rfl, rfl⟩ := logged_play hp
  simpa using h.concat .play

/-- A courier asks for nothing but what it can ask for with what it has in hand. -/
theorem logged_guards_hand (env : Devices W D) (a : Hand) :
    env.logged.Guards (fun d j => a.Path j.errands (.of (d.map (·.number)) j.known))
      (fun d j => a.Path j.errands (.found d.number) ∧ j.known = d.number + 1)
      (fun d j => a.Path j.errands (.holding d.number j.known)) where
  missing {c j j'} h hf := by
    obtain ⟨w, -, rfl⟩ := logged_find_none hf
    simpa using h.concat .nothing
  find {c d j j'} h hf := by
    obtain ⟨d₁, w, -, rfl, rfl⟩ := logged_find_some hf
    have hn := h.concat (.find (c := c))
    rw [← j.errands_note _ (some d₁) w] at hn
    exact ⟨hn, rfl⟩
  refused {d d' err j j'} h ha := by
    obtain ⟨h, hk⟩ := h
    obtain ⟨d₁, w, -, rfl, rfl⟩ := logged_acquire ha
    simpa [hk] using h.concat .refused
  acquire {d d' j j'} h ha := by
    obtain ⟨h, hk⟩ := h
    obtain ⟨d₁, w, -, rfl, rfl⟩ := logged_acquire ha
    simpa [hk] using h.concat .acquire
  played h hp := path_play h hp
  failed h hp _ := path_play h hp
  lose h hp _ := path_play h hp
  give_up h := h
  close {d j} h := by
    rw [logged_close]
    simpa using h.concat .close

end Devices

namespace Course

/-- After any run the courier holds the one device that was obtained and has not been closed, if there is
one. Devices are asked to play only while they are held, and nothing is looked for while one is. A device
that could not be opened is not asked for anything else, and none is asked for anything after it was
closed. When the depot was stopped, each device that was obtained has been closed exactly once. -/
theorem run_owned (env : Devices W D) {capacity : Nat} {preferred : Option Connection}
    {device : Option D} {d : Depot (Numbered D)}
    (hd : Depot.ofCapacity? capacity preferred (device.map (Numbered.mk 0)) = some d) (w : W)
    (acts : List Act) :
    let first := device.map fun _ => 0
    let c₀ := start d (Logged.start w)
    let c := c₀.run env.logged acts
    (∀ k, c.depot.phase.courier? = some k →
      ∀ n, Retained first c.world.errands n ↔ k.device.map (·.number) = some n) ∧
    Owned first c.world.errands ∧
    (Stopped env.logged c₀ acts →
      ∀ n, Obtained first c.world.errands n → (c.world.errands.filterMap Errand.closed?).count n = 1) := by
  intro first c₀ c
  obtain ⟨-, hpend, -⟩ := Ledger.of_ofCapacity? hd
  have hfirst : Hand.Tells first [] (.of first 1) := .start fun n hn => by
    obtain ⟨_, -, rfl⟩ := Option.map_eq_some_iff.1 hn
    exact Nat.zero_lt_one
  have hg := env.logged_guards_hand (.of first 1)
  have hstart : c₀.Guarded fun d j =>
      (Hand.of first 1).Path j.errands (.of (d.map (·.number)) j.known) := by
    refine .of_courier (k := .new preferred (device.map (Numbered.mk 0)))
      (by rw [show c₀.depot.phase = _ from hpend]; rfl) ?_
    rw [Courier.new, Option.map_map]
    exact .start
  have hrun := run_guarded hg hstart acts
  refine ⟨fun k hk n => ?_, ?_, fun hs n hn => ?_⟩
  · have ht : Hand.Tells first c.world.errands _ := (hrun.courier k hk).tells hfirst
    rw [ht.retained n, Hand.held?_of]
  · obtain ⟨o, ho⟩ := hrun.world
    exact ho.owned hfirst
  · have hend := hs.guarded hg hstart (by rw [show c₀.depot.phase = _ from hpend]; simp)
    have ht : Hand.Tells first c.world.errands _ := hend.tells hfirst
    have hclosed : n ∈ c.world.errands.filterMap Errand.closed? := by
      by_contra hc
      have hheld := (ht.retained n).1 ⟨hn, hc⟩
      cases hheld
    exact List.count_eq_one_of_mem ht.nodup hclosed

/-- The first device is lost, and the one that is found then cannot be opened. -/
theorem run_owned_refused :
    let acts := [Act.request 3, .start, .look, .take, .proceed, .proceed, .signal, .look, .leave, .join]
    ∃ d, Depot.ofCapacity? 1 none (some ⟨0, ()⟩) = some d ∧
      let c₀ := start d (Logged.start [.error .notOpen, .error .notFound])
      let l := (c₀.run Devices.cued.logged acts).world.errands
      l = [.play 0 ⟨3⟩ (.error .notOpen), .close 0 (.ok ()), .find none (some 1),
        .acquire 1 (.error .notFound)] ∧
      Stopped Devices.cued.logged c₀ acts ∧ Owned (some 0) l ∧ ¬ Obtained (some 0) l 1 ∧
      (l.filterMap Errand.closed?).count 0 = 1 := by
  intro acts
  have hd : Depot.ofCapacity? 1 none (Option.map (Numbered.mk 0) (some ())) =
    some ⟨⟨1, [], false, 0, 0⟩, ⟨0, 0⟩, .pending ⟨none, some ⟨0, ()⟩, 0⟩, false, false, 0⟩ := rfl
  obtain ⟨-, howned, hstop⟩ := run_owned Devices.cued hd [.error .notOpen, .error .notFound] acts
  refine ⟨_, hd, ?_⟩
  intro c₀ l
  have hl : l = [.play 0 ⟨3⟩ (.error .notOpen), .close 0 (.ok ()), .find none (some 1),
    .acquire 1 (.error .notFound)] := rfl
  have hs : Stopped Devices.cued.logged c₀ acts :=
    ⟨acts.dropLast, [], rfl, by decide, fun h => absurd (congrArg (·.courier?.isSome) h) (by decide), rfl⟩
  exact ⟨hl, hs, howned, (howned.refused (l.take 3) 1 .notFound [] (by rw [hl]; rfl)).1, hstop hs 0 (.inl rfl)⟩

end Course

end Haptics
