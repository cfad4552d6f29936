import Haptics.Delivery.Inbox
import Haptics.Device.Mouse
import Haptics.Settings.NameMap

/-!
# Settings

Which effect an event plays, and how the daemon runs. `effectFor` looks an event up, `allEffects`
lists every effect that a look-up can give, and `check` refuses what the daemon cannot run with.
-/

namespace Haptics

/-- What an event is bound to. -/
inductive Binding where
  /-- One effect, whatever the argument. -/
  | fixed (effect : Int64)
  /-- An effect for each of some arguments, and perhaps one for all others. -/
  | table (fallback : Option Int64) (byArgument : NameMap Int64)
  deriving DecidableEq

/-- How the daemon runs. -/
structure DaemonSettings where
  /-- The effects that may wait for the device. -/
  queueCapacity : UInt64
  /-- The wait for a receiver's answer, in milliseconds. -/
  responseTimeoutMs : UInt64
  /-- The only connection to use. -/
  connection : Option Connection
  /-- The path of the command socket. -/
  commandSocket : Option String
  deriving DecidableEq

namespace DaemonSettings

/-- How the daemon runs if nothing else is set. -/
def default : DaemonSettings :=
  ⟨UInt64.ofNat Inbox.defaultCapacity, Mouse.defaultTimeoutMs, none, none⟩

end DaemonSettings

/-- The settings of the program. -/
structure Settings where
  /-- The effect of events that have no binding. -/
  defaultEffect : Option Int64
  events : NameMap Binding
  daemon : DaemonSettings
  /-- The file that the settings come from. -/
  source : Option String
  deriving DecidableEq

namespace Settings

/-- Settings without any effect. -/
def default : Settings := ⟨none, .empty, .default, none⟩

/-- The effect of an event with an argument: that of the argument, else that of the event, else that
of all events. A fixed binding does not look at the argument. -/
def effectFor (s : Settings) (event argument : String) : Option Int64 :=
  match s.events.get? event with
  | none => s.defaultEffect
  | some (.fixed n) => some n
  | some (.table fallback byArgument) => ((byArgument.get? argument).or fallback).or s.defaultEffect

/-! ### Validation -/

/-- The effects of a binding. -/
def effectsOf : Binding → List Int64
  | .fixed n => [n]
  | .table fallback byArgument => fallback.toList ++ byArgument.entries.map (·.2)

/-- The name under which the default effect is reported. -/
def defaultName : String := "default_effect"

/-- Every effect in the settings, with the event that it is bound to. -/
def allEffects (s : Settings) : List (String × Int64) :=
  s.defaultEffect.toList.map (defaultName, ·) ++
    s.events.entries.flatMap fun (name, b) => (effectsOf b).map (name, ·)

/-- Whether a number is no effect's. -/
def isStray (n : Int64) : Bool := !(Effect.ofNumber n).isOk

/-- Whether one report comes before another: by name, then by number. -/
def reportLe (a b : String × Int64) : Bool := a.1 < b.1 || (a.1 == b.1 && a.2 ≤ b.2)

/-- The numbers in the settings that are no effect's, in the order in which they are reported. -/
def strayEffects (s : Settings) : List (String × Int64) :=
  (s.allEffects.filter fun (_, n) => isStray n).mergeSort reportLe

/-- What the daemon cannot run with. -/
inductive Flaw where
  | noQueue
  | noWait
  deriving DecidableEq, Repr

/-- What a person is told about a flaw. -/
def Flaw.message : Flaw → String
  | noQueue => "daemon.queue_capacity must be at least 1"
  | noWait => "daemon.response_timeout_ms must be at least 1"

/-- Refuses settings that the daemon cannot run with. Numbers that are no effect's are let through: they
are rejected when they are asked for. -/
def check (s : Settings) : Except Flaw Unit :=
  if s.daemon.queueCapacity = 0 then .error .noQueue
  else if s.daemon.responseTimeoutMs = 0 then .error .noWait
  else .ok ()

end Settings

end Haptics
