import Haptics.Json.Reader
import Haptics.Settings.Basic

/-!
# Reading settings

Settings from a JSON document. Every record may also be written as the array of its fields in order.
Unknown fields are skipped, but everything below an event is read, whether it has a use or not.
-/

namespace Haptics.Settings

def nullable {α : Type} (read : Json → Option α) : Json → Option (Option α)
  | .null => some none
  | v => (read v).map some

/-- A field that may be left out. -/
def field {α : Type} (missing : α) (read : Json → Option α) : Option Json → Option α
  | none => some missing
  | some v => read v

/-- A map from names; the last value under a name counts. -/
def readMap {α : Type} (read : Json → Option α) (v : Json) : Option (NameMap α) :=
  v.members?.bind fun members =>
    (members.mapM fun (m : String × Json) => (read m.2).map (m.1, ·)).map .ofEntries

/-- A connection by its key, which may also stand alone in an object. -/
def readConnection (v : Json) : Option Connection :=
  match v.members? with
  | some [(name, .null)] => Connection.ofKey? name
  | some _ => none
  | none => v.text?.bind Connection.ofKey?

def readTable (v : Json) : Option Binding :=
  match v.fields? ["default", "args"] with
  | some [fallback, byArgument] =>
    (field none (nullable Json.int64?) fallback).bind fun fallback =>
      (field .empty (readMap Json.int64?) byArgument).map (.table fallback ·)
  | _ => none

/-- How deeply the value of a binding may be nested. -/
def bindingDepth : Nat := 125

/-- The binding of an event: a number or a table. -/
def readBinding (v : Json) : Option Binding :=
  if bindingDepth < v.depth || !v.isSound then none
  else match v.int64? with
    | some n => some (.fixed n)
    | none => readTable v

def readDaemon (v : Json) : Option DaemonSettings :=
  match v.fields? ["queue_capacity", "response_timeout_ms", "connection", "ipc_socket"] with
  | some [capacity, timeout, connection, socket] =>
    (field DaemonSettings.default.queueCapacity Json.uint64? capacity).bind fun capacity =>
      (field DaemonSettings.default.responseTimeoutMs Json.uint64? timeout).bind fun timeout =>
        (field none (nullable readConnection) connection).bind fun connection =>
          (field none (nullable Json.text?) socket).map fun socket =>
            ⟨capacity, timeout, connection, socket⟩
  | _ => none

def ofJson? (v : Json) : Option Settings :=
  match v.fields? ["default_effect", "events", "daemon"] with
  | some [effect, events, daemon] =>
    (field none (nullable Json.int64?) effect).bind fun effect =>
      (field .empty (readMap readBinding) events).bind fun events =>
        (field .default readDaemon daemon).map fun daemon => ⟨effect, events, daemon, none⟩
  | _ => none

/-- The settings in a document. Octets that are no character may only stand in strings that are skipped. -/
def parse? (bs : Bytes) : Option Settings := (Json.read? bs).bind ofJson?

end Haptics.Settings
