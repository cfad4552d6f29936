import Haptics.Bytes
import Haptics.Wire.Connection
import Haptics.Wire.Effect

/-!
# Frames

A HID++ frame is a report type, a device index, a feature address and a payload that fills the
report. `Frame.request` puts parameters into the smallest report that takes them, `Frame.trigger` is
the command that plays an effect, and `Reply.ofBytes` reads a frame of any length.
-/

namespace Haptics

inductive Report where
  | short
  | long
  deriving DecidableEq, Repr

namespace Report

def byte : Report → UInt8
  | short => 0x10
  | long => 0x11

def ofByte? (b : UInt8) : Option Report :=
  if b = 0x10 then some short else if b = 0x11 then some long else none

def size : Report → Nat
  | short => 7
  | long => 20

/-- The bytes of a frame behind its header. -/
def payloadLength (r : Report) : Nat := r.size - 4

end Report

/-- A frame that fills its report. -/
structure Frame where
  report : Report
  deviceIndex : UInt8
  feature : UInt16
  payload : Bytes
  fits : payload.length = report.payloadLength
  deriving DecidableEq

namespace Frame

def bytes (f : Frame) : Bytes :=
  f.report.byte :: f.deviceIndex :: (f.feature >>> 8).toUInt8 :: f.feature.toUInt8 :: f.payload

/-- A frame of the given type whose parameters are cut or padded to its payload. -/
def build (report : Report) (deviceIndex : UInt8) (feature : UInt16) (params : Bytes) : Frame :=
  ⟨report, deviceIndex, feature, params.fit report.payloadLength, Bytes.length_fit ..⟩

/-- The report type that a feature request takes: short for as many parameters as fit there. -/
def requestReport (params : Bytes) : Report :=
  if params.length ≤ Report.short.payloadLength then .short else .long

/-- A request to a feature of the device at an index of the receiver. -/
def request (deviceIndex : UInt8) (feature : UInt16) (params : Bytes) : Frame :=
  build (requestReport params) deviceIndex feature params

/-- The feature address of the haptic motor. -/
def hapticFeature : UInt16 := 0x0B4E

/-- The device index in commands over Bluetooth, where no receiver stands between. -/
def directIndex : UInt8 := 0xFF

/-- The device index that commands over a connection carry; slot 0 if the receiver's is not known. -/
def targetIndex (index : Option UInt8) : UInt8 := index.getD 0

/-- The command that plays an effect: a feature request over Bolt, a long report over Bluetooth. -/
def trigger (connection : Connection) (index : Option UInt8) (effect : Effect) : Frame :=
  match connection with
  | .bolt => request (targetIndex index) hapticFeature [effect.byte]
  | .bluetooth => build .long directIndex hapticFeature [effect.byte]

end Frame

/-- What a received frame says. -/
structure Reply where
  reportType : UInt8
  deviceIndex : UInt8
  feature : UInt16
  payload : Bytes
  deriving DecidableEq, Repr

namespace Reply

/-- A frame received, whatever its length, as long as its header is complete. -/
def ofBytes : Bytes → Except WireError Reply
  | reportType :: deviceIndex :: high :: low :: payload =>
    .ok ⟨reportType, deviceIndex, high.toUInt16 <<< 8 ||| low.toUInt16, payload⟩
  | bs => .error (.malformed bs.length)

end Reply

namespace WireError

def message : WireError → String
  | malformed n => "Malformed HID++ response: " ++ Text.showNat n ++ " bytes, need at least 4"
  | effectOutOfRange n => Effect.outOfRangeMessage n

end WireError

end Haptics
