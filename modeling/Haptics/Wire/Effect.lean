import Haptics.Text.Numeral

/-!
# Effects

A haptic effect is one of sixteen waveforms; effect 0 stops the motor. Requests name an effect by a
signed 64-bit number, which may be out of range.
-/

namespace Haptics

/-- A waveform of the haptic motor. -/
structure Effect where
  index : Fin 16
  deriving DecidableEq, Repr

/-- What can be wrong with the content of a command or of an answer. -/
inductive WireError where
  /-- An answer too short to have a header. -/
  | malformed (length : Nat)
  | effectOutOfRange (number : Int64)
  deriving DecidableEq, Repr

namespace Effect

def stop : Effect := ⟨0⟩

def number (e : Effect) : Nat := e.index.val

/-- The byte that selects the effect in a command. -/
def byte (e : Effect) : UInt8 := UInt8.ofNat e.number

/-- The effect of a number in `0..=15`. -/
def ofNumber (n : Int64) : Except WireError Effect :=
  if h : 0 ≤ n.toInt ∧ n.toInt ≤ 15 then .ok ⟨⟨n.toInt.toNat, by omega⟩⟩
  else .error (.effectOutOfRange n)

def outOfRangeMessage (n : Int64) : String :=
  "Effect " ++ Text.showInt n.toInt ++ " out of range (0-15)"

end Effect

end Haptics
