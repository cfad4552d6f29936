import Haptics.Device.Mouse

/-!
# The courier

The courier holds at most one device and delivers one effect at a time. If a send shows that the device
is gone, the courier gives it up, looks once for a replacement and sends the same effect once more.
Without a device, each effect gets one search and one send.
-/

namespace Haptics

/-- How devices are found and driven: `W` is the world outside, `D` the devices. -/
structure Devices (W D : Type) where
  /-- Looks for a device, on the given connection only if there is one. -/
  find : Option Connection → W → Option D × W
  acquire : D → W → Except DeviceError Unit × D × W
  play : D → Effect → W → Except DeviceError Outcome × D × W
  close : D → W → Except DeviceError Unit × D × W

namespace Devices

variable {W H : Type}

/-- Mice behind a transport, with a search for them. -/
def ofMice (t : Transport W H) (find : Option Connection → W → Option (Mouse H) × W) :
    Devices W (Mouse H) where
  find := find
  acquire s w := s.opened t w
  play s e w := s.play t e w
  close s w := s.closed t w

end Devices

structure Courier (D : Type) where
  /-- The connection that searches are limited to. -/
  preferred : Option Connection
  device : Option D
  /-- Transport failures of the device since it was last played successfully. -/
  failures : Nat
  deriving DecidableEq

namespace Courier

variable {W D : Type}

/-- The transport failures in a row after which a device is given up. -/
def failureLimit : Nat := 2

/-- A courier that has to look for a device first, unless it is given one. -/
def new (preferred : Option Connection) (device : Option D) : Courier D := ⟨preferred, device, 0⟩

/-- Gives up the device, whatever comes of closing it. -/
def discard (env : Devices W D) (k : Courier D) (w : W) : Courier D × W :=
  match k.device with
  | none => ({ k with failures := 0 }, w)
  | some d => ({ k with device := none, failures := 0 }, (env.close d w).2.2)

/-- Gives up the device, then looks for another one and opens it. -/
def replace (env : Devices W D) (k : Courier D) (w : W) : Except DeviceError Unit × Courier D × W :=
  match k.discard env w with
  | (k, w) =>
    match env.find k.preferred w with
    | (none, w) => (.error .notFound, k, w)
    | (some d, w) =>
      match env.acquire d w with
      | (.error e, _, w) => (.error e, k, w)
      | (.ok (), d, w) => (.ok (), { k with device := some d }, w)

/-- The courier after its device failed to play: an error by which the device is lost costs it, and so
does the last transport failure in a row that is put up with. -/
def afterFailure (env : Devices W D) (k : Courier D) (e : DeviceError) (w : W) : Courier D × W :=
  if e.losesDevice then k.discard env w
  else match e with
    | .transport _ =>
      let k := { k with failures := k.failures + 1 }
      if failureLimit ≤ k.failures then k.discard env w else (k, w)
    | _ => (k, w)

def send (env : Devices W D) (k : Courier D) (e : Effect) (w : W) :
    Except DeviceError Outcome × Courier D × W :=
  match k.device with
  | none => (.error .notOpen, k, w)
  | some d =>
    match env.play d e w with
    | (.ok o, d, w) => (.ok o, { k with device := some d, failures := 0 }, w)
    | (.error err, d, w) => (.error err, afterFailure env { k with device := some d } err w)

/-- What comes next in the delivery of an effect. -/
inductive Stage where
  /-- The send on the device that was held from the start. -/
  | first
  /-- The search for a device. -/
  | search
  /-- The send on the device that was found. -/
  | last
  deriving DecidableEq, Repr

inductive Progress where
  | next (stage : Stage)
  | ended (result : Except DeviceError Outcome)

/-- What a delivery begins with: a send, or a search if no device is held. -/
def begin (k : Courier D) : Stage :=
  match k.device with
  | some _ => .first
  | none => .search

/-- One stage of a delivery: after the first send comes a search if the send failed because the device
is gone, and after a search that found a device comes the last send. -/
def proceed (env : Devices W D) (k : Courier D) (stage : Stage) (e : Effect) (w : W) :
    Progress × Courier D × W :=
  match stage with
  | .first =>
    match k.send env e w with
    | (.ok o, k, w) => (.ended (.ok o), k, w)
    | (.error err, k, w) => (if err.losesDevice then .next .search else .ended (.error err), k, w)
  | .search =>
    match k.replace env w with
    | (.ok (), k, w) => (.next .last, k, w)
    | (.error err, k, w) => (.ended (.error err), k, w)
  | .last =>
    match k.send env e w with
    | (r, k, w) => (.ended r, k, w)

def release (env : Devices W D) (k : Courier D) (w : W) : W :=
  match k.device with
  | none => w
  | some d => (env.close d w).2.2

end Courier

end Haptics
