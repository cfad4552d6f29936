/-!
# Connections

The two ways the mouse is attached, their names in output and in settings, and reading a name.
-/

namespace Haptics

/-- How the mouse is attached. -/
inductive Connection where
  /-- Through a Bolt receiver, which answers every command. -/
  | bolt
  /-- Paired directly over Bluetooth, which is write-only. -/
  | bluetooth
  deriving DecidableEq, Repr

namespace Connection

def displayName : Connection → String
  | bolt => "Bolt"
  | bluetooth => "Bluetooth"

def key : Connection → String
  | bolt => "bolt"
  | bluetooth => "bluetooth"

def ofKey? : String → Option Connection
  | "bolt" => some bolt
  | "bluetooth" => some bluetooth
  | _ => none

structure Unknown where
  name : String
  deriving DecidableEq, Repr

def Unknown.message (u : Unknown) : String :=
  "unknown connection type '" ++ u.name ++ "' (expected bolt or bluetooth)"

/-- A name typed by a person: the key in any ASCII case, or `bt`. -/
def ofName (name : String) : Except Unknown Connection :=
  match String.ofList (name.toList.map Char.toLower) with
  | "bolt" => .ok bolt
  | "bluetooth" | "bt" => .ok bluetooth
  | other => .error ⟨other⟩

end Connection

end Haptics
