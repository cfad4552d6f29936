import Haptics.Json.Printer
import Haptics.Settings.Basic

/-!
# Writing settings

Settings as a JSON document. An effect that is not set is left out; the other fields are always written.
-/

namespace Haptics.Settings

def ofNumber (n : Int64) : Json := .ofInt n.toInt

/-- A field that is left out if it has no value. -/
def optional (name : String) (v : Option Json) : List (String × Json) := v.toList.map (name, ·)

def ofMap {α : Type} (write : α → Json) (m : NameMap α) : Json :=
  .ofMembers (m.entries.map fun (name, v) => (name, write v))

def ofBinding : Binding → Json
  | .fixed n => ofNumber n
  | .table fallback byArgument =>
    .ofMembers (optional "default" (fallback.map ofNumber) ++ [("args", ofMap ofNumber byArgument)])

def ofDaemon (d : DaemonSettings) : Json :=
  .ofMembers
    [("queue_capacity", .ofInt d.queueCapacity.toNat),
     ("response_timeout_ms", .ofInt d.responseTimeoutMs.toNat),
     ("connection", (d.connection.map fun c => Json.ofText c.key).getD .null),
     ("ipc_socket", (d.commandSocket.map Json.ofText).getD .null)]

/-- Settings as a value; where they come from is not part of it. -/
def toJson (s : Settings) : Json :=
  .ofMembers (optional "default_effect" (s.defaultEffect.map ofNumber) ++
    [("events", ofMap ofBinding s.events), ("daemon", ofDaemon s.daemon)])

def render (s : Settings) : List Char := Json.render s.toJson

end Haptics.Settings
