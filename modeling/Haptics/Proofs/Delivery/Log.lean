import Haptics.Delivery.Courier

/-!
# The log of the errands

`Devices.logged` drives the same devices and keeps a log of it: each search, opening, play and closing
is a line, with its answer and the world before and after. Devices have numbers in the order in which
they come to be known, so that a device keeps its number while its state changes.

`Devices.Keeps` says that no call on the devices breaks a property of the world. Nothing that a courier
does breaks it then. In particular, every line of the log is of a call that was made
(`Devices.logged_keeps_made`).
-/

namespace Haptics

/-- A device with the number that it keeps. -/
structure Numbered (D : Type) where
  number : Nat
  device : D

/-- A call on the devices with its answer; devices are given by their numbers. -/
inductive Errand where
  | find (connection : Option Connection) (found : Option Nat)
  | acquire (number : Nat) (answer : Except DeviceError Unit)
  | play (number : Nat) (effect : Effect) (answer : Except DeviceError Outcome)
  | close (number : Nat) (answer : Except DeviceError Unit)

namespace Errand

def effect? : Errand → Option Effect
  | play _ e _ => some e
  | _ => none

def outcome? : Errand → Option (Except DeviceError Outcome)
  | play _ _ r => some r
  | _ => none

def isFind : Errand → Bool
  | find .. => true
  | _ => false

def isAcquire : Errand → Bool
  | acquire .. => true
  | _ => false

def isOpening : Errand → Bool
  | acquire _ (.ok ()) => true
  | _ => false

end Errand

/-- A line of the log. -/
structure Line (W D : Type) where
  errand : Errand
  /-- The device that the errand is about, as it was found or as it was before the call. -/
  device : Option D
  before : W
  after : W

/-- A world with the log of what the devices in it were asked. -/
structure Logged (W D : Type) where
  world : W
  /-- The number that the next device found will have. -/
  known : Nat
  lines : List (Line W D)

namespace Logged

variable {W D : Type}

/-- A world in which nothing was asked yet. Number 0 is left to a device that is held from the start. -/
def start (world : W) : Logged W D := ⟨world, 1, []⟩

def errands (j : Logged W D) : List Errand := j.lines.map (·.errand)

def note (j : Logged W D) (errand : Errand) (device : Option D) (w : W) : Logged W D :=
  { j with world := w, lines := j.lines ++ [⟨errand, device, j.world, w⟩] }

@[simp] theorem world_note (j : Logged W D) (x : Errand) (d : Option D) (w : W) :
    (j.note x d w).world = w := rfl

@[simp] theorem known_note (j : Logged W D) (x : Errand) (d : Option D) (w : W) :
    (j.note x d w).known = j.known := rfl

@[simp] theorem errands_note (j : Logged W D) (x : Errand) (d : Option D) (w : W) :
    (j.note x d w).errands = j.errands ++ [x] :=
  List.map_append

end Logged

namespace Devices

variable {W D : Type}

/-- The same devices with a log. -/
def logged (env : Devices W D) : Devices (Logged W D) (Numbered D) where
  find c j :=
    match env.find c j.world with
    | (none, w) => (none, j.note (.find c none) none w)
    | (some d, w) =>
      (some ⟨j.known, d⟩, { j.note (.find c (some j.known)) (some d) w with known := j.known + 1 })
  acquire d j :=
    match env.acquire d.device j.world with
    | (r, d', w) => (r, ⟨d.number, d'⟩, j.note (.acquire d.number r) (some d.device) w)
  play d e j :=
    match env.play d.device e j.world with
    | (r, d', w) => (r, ⟨d.number, d'⟩, j.note (.play d.number e r) (some d.device) w)
  close d j :=
    match env.close d.device j.world with
    | (r, d', w) => (r, ⟨d.number, d'⟩, j.note (.close d.number r) (some d.device) w)

/-- No call on the devices breaks `P`. -/
structure Keeps (env : Devices W D) (P : W → Prop) : Prop where
  find : ∀ c w, P w → P (env.find c w).2
  acquire : ∀ d w, P w → P (env.acquire d w).2.2
  play : ∀ d e w, P w → P (env.play d e w).2.2
  close : ∀ d w, P w → P (env.close d w).2.2

namespace Keeps

variable {env : Devices W D} {P : W → Prop} {w : W}

theorem discard (h : env.Keeps P) (k : Courier D) (hw : P w) : P (k.discard env w).2 := by
  unfold Courier.discard
  split
  · exact hw
  · exact h.close _ _ hw

theorem replace (h : env.Keeps P) (k : Courier D) (hw : P w) : P (k.replace env w).2.2 := by
  have hd := h.discard k hw
  have hf := h.find (k.discard env w).1.preferred _ hd
  unfold Courier.replace
  rcases hdk : k.discard env w with ⟨k', w'⟩
  rw [hdk] at hf
  rcases hfk : env.find k'.preferred w' with ⟨_ | d, w''⟩
  · rw [hfk] at hf
    simp only [hfk]; exact hf
  · rw [hfk] at hf
    have ha := h.acquire d _ hf
    rcases hak : env.acquire d w'' with ⟨_ | _, d', w'''⟩ <;> rw [hak] at ha <;>
      simp only [hfk, hak] <;> exact ha

theorem afterFailure (h : env.Keeps P) (k : Courier D) (err : DeviceError) (hw : P w) :
    P (k.afterFailure env err w).2 := by
  unfold Courier.afterFailure
  split
  · exact h.discard k hw
  · split
    · dsimp only
      split
      · exact h.discard _ hw
      · exact hw
    · exact hw

theorem send (h : env.Keeps P) (k : Courier D) (e : Effect) (hw : P w) : P (k.send env e w).2.2 := by
  unfold Courier.send
  split
  · exact hw
  · rename_i d _
    have hp := h.play d e _ hw
    rcases hpk : env.play d e w with ⟨_ | _, d', w'⟩ <;> rw [hpk] at hp
    · exact h.afterFailure _ _ hp
    · exact hp

theorem proceed (h : env.Keeps P) (k : Courier D) (stage : Courier.Stage) (e : Effect) (hw : P w) :
    P (k.proceed env stage e w).2.2 := by
  have hs := h.send k e hw
  have hr := h.replace k hw
  unfold Courier.proceed
  cases stage with
  | first => rcases hsk : k.send env e w with ⟨_ | _, k', w'⟩ <;> rw [hsk] at hs <;> exact hs
  | search => rcases hrk : k.replace env w with ⟨_ | _, k', w'⟩ <;> rw [hrk] at hr <;> exact hr
  | last => exact hs

theorem release (h : env.Keeps P) (k : Courier D) (hw : P w) : P (k.release env w) := by
  unfold Courier.release
  split
  · exact hw
  · exact h.close _ _ hw

end Keeps

/-- A line is of a call that the devices answered so. -/
inductive Genuine (env : Devices W D) : Line W D → Prop where
  | nothing {c w w'} (h : env.find c w = (none, w')) : Genuine env ⟨.find c none, none, w, w'⟩
  | found {c n d w w'} (h : env.find c w = (some d, w')) : Genuine env ⟨.find c (some n), some d, w, w'⟩
  | acquire {n d d' r w w'} (h : env.acquire d w = (r, d', w')) :
    Genuine env ⟨.acquire n r, some d, w, w'⟩
  | play {n d d' e r w w'} (h : env.play d e w = (r, d', w')) : Genuine env ⟨.play n e r, some d, w, w'⟩
  | close {n d d' r w w'} (h : env.close d w = (r, d', w')) : Genuine env ⟨.close n r, some d, w, w'⟩

/-- The lines are of calls made one after the other, from the world `w₀` on. -/
inductive Made (env : Devices W D) (w₀ : W) : List (Line W D) → W → Prop where
  | start : Made env w₀ [] w₀
  | call {l : List (Line W D)} {x : Line W D} (h : Made env w₀ l x.before) (hx : Genuine env x) :
    Made env w₀ (l ++ [x]) x.after

theorem Made.genuine {env : Devices W D} {w₀ w : W} {l : List (Line W D)} (h : Made env w₀ l w) :
    ∀ x ∈ l, Genuine env x := by
  induction h with
  | start => simp
  | call _ hx ih =>
    intro x hm
    rcases List.mem_append.1 hm with hm | hm
    · exact ih x hm
    · rw [List.mem_singleton.1 hm]; exact hx

theorem logged_keeps_made (env : Devices W D) (w₀ : W) :
    env.logged.Keeps fun j => Made env w₀ j.lines j.world := by
  refine ⟨fun c j h => ?_, fun d j h => ?_, fun d e j h => ?_, fun d j h => ?_⟩
  · rcases hf : env.find c j.world with ⟨_ | d, w⟩ <;> simp only [logged, hf]
    · exact .call h (.nothing hf)
    · exact .call h (.found hf)
  · exact .call h (.acquire rfl)
  · exact .call h (.play rfl)
  · exact .call h (.close rfl)

end Devices

end Haptics
