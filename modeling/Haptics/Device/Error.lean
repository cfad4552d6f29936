import Haptics.System.Error
import Haptics.Wire.Effect

/-!
# Device errors

What can go wrong between the queue and the mouse, and which of these errors mean that the device
has to be looked for again.
-/

namespace Haptics

/-- Why a device operation failed. -/
inductive DeviceError where
  | notFound
  | permissionDenied (path : String)
  /-- The device vanished, or did not answer in time. -/
  | disconnected (cause : IoError)
  | malformed (length : Nat)
  | invalidArgument (number : Int64)
  /-- The mouse holds no handle. -/
  | notOpen
  /-- Any other failure of the transport. -/
  | transport (cause : IoError)
  deriving DecidableEq, Repr

namespace DeviceError

/-- The error of every use of a mouse after its device vanished. -/
def spent : DeviceError :=
  disconnected (.other "session was invalidated by an earlier disconnect")

/-- Whether the mouse must be given up and a device looked for again. -/
def losesDevice : DeviceError → Bool
  | disconnected _ | malformed _ | notOpen => true
  | _ => false

def cause? : DeviceError → Option IoError
  | disconnected e | transport e => some e
  | _ => none

def message : DeviceError → String
  | notFound => "MX Master 4 device not found"
  | permissionDenied path => "Permission denied for " ++ path ++ ". Run with sudo or check udev rules."
  | disconnected e => "Device disconnected: " ++ e.message
  | malformed n => "Malformed HID++ response (" ++ Text.showNat n ++ " bytes)"
  | invalidArgument n => Effect.outOfRangeMessage n
  | notOpen => "Device is not open"
  | transport e => "Transport error: " ++ e.message

def debug : DeviceError → String
  | notFound => "NotFound"
  | permissionDenied path => "PermissionDenied \x7b path: " ++ Text.quoted path ++ " \x7d"
  | disconnected e => "Disconnected(" ++ e.debug ++ ")"
  | malformed n => "Malformed \x7b len: " ++ Text.showNat n ++ " \x7d"
  | invalidArgument n => "InvalidArgument(" ++ Text.showInt n.toInt ++ ")"
  | notOpen => "NotOpen"
  | transport e => "Transport(" ++ e.debug ++ ")"

/-- A fault in the content of a command or an answer, as a device error. -/
def ofWire : WireError → DeviceError
  | .malformed n => malformed n
  | .effectOutOfRange n => invalidArgument n

end DeviceError

end Haptics
