import Haptics.Level
import Haptics.Wire.Connection

/-!
# Options

The arguments of the program. They are read one after the other: the first that is at fault ends the
reading, and so does the first that asks for help or for the version.
-/

namespace Haptics.CommandLine

/-- What the arguments ask for. -/
structure Options where
  config : Option String
  level : Option Level
  /-- Whether everything is logged. -/
  verbose : Bool
  connection : Option Connection
  /-- The node to use over Bluetooth. -/
  devicePath : Option String
  listDevices : Bool
  demo : Bool
  deriving DecidableEq, Repr

/-- Why the program ends before it begins. -/
inductive Ending where
  | help
  | version
  | misuse
  deriving DecidableEq, Repr

inductive Switch where
  | verbose
  | listDevices
  | demo
  | help
  | version
  deriving DecidableEq, Repr

inductive Setting where
  | config
  | level
  | connection
  | devicePath
  deriving DecidableEq, Repr

inductive Name where
  | switch (s : Switch)
  | setting (s : Setting)
  deriving DecidableEq, Repr

namespace Name

def ofWord? : String → Option Name
  | "config" => some (.setting .config)
  | "log-level" => some (.setting .level)
  | "verbose" => some (.switch .verbose)
  | "connection" => some (.setting .connection)
  | "device-path" => some (.setting .devicePath)
  | "list-devices" => some (.switch .listDevices)
  | "demo" => some (.switch .demo)
  | "help" => some (.switch .help)
  | "version" => some (.switch .version)
  | _ => none

def ofLetter? : Char → Option Name
  | 'c' => some (.setting .config)
  | 'l' => some (.setting .level)
  | 'v' => some (.switch .verbose)
  | 'h' => some (.switch .help)
  | 'V' => some (.switch .version)
  | _ => none

end Name

def levelOf? : String → Option Level
  | "debug" => some .debug
  | "info" => some .info
  | "warning" => some .warning
  | "error" => some .error
  | _ => none

/-- A path, which may not be empty. -/
def pathOf? (value : String) : Option String := if value.isEmpty then none else some value

namespace Options

def none : Options := ⟨.none, .none, false, .none, .none, false, false⟩

def leastLevel (o : Options) : Level := if o.verbose then .debug else o.level.getD .info

/-- The options after a switch; none may be given twice. -/
def flip (o : Options) : Switch → Except Ending Options
  | .verbose => if o.verbose then .error .misuse else .ok { o with verbose := true }
  | .listDevices => if o.listDevices then .error .misuse else .ok { o with listDevices := true }
  | .demo => if o.demo then .error .misuse else .ok { o with demo := true }
  | .help => .error .help
  | .version => .error .version

/-- A value for an option that has none yet. -/
def fresh {α : Type} (old new : Option α) : Except Ending (Option α) :=
  if old.isSome || new.isNone then .error .misuse else .ok new

/-- The options after a value; none may be given twice. -/
def set (o : Options) (s : Setting) (value : String) : Except Ending Options :=
  match s with
  | .config => (fresh o.config (pathOf? value)).map fun v => { o with config := v }
  | .level => (fresh o.level (levelOf? value)).map fun v => { o with level := v }
  | .connection =>
    (fresh o.connection (Connection.ofName value).toOption).map fun v => { o with connection := v }
  | .devicePath => (fresh o.devicePath (pathOf? value)).map fun v => { o with devicePath := v }

/-- The options after the letters behind a dash, and the option that its value is still to come for. What
follows the letter of an option with a value is that value, an equals sign before it left out. -/
def readLetters (o : Options) : List Char → Except Ending (Options × Option Setting)
  | [] => .ok (o, .none)
  | c :: cs =>
    match Name.ofLetter? c, cs with
    | .none, _ => .error .misuse
    | some (.switch s), _ =>
      match o.flip s with
      | .ok o => readLetters o cs
      | .error e => .error e
    | some (.setting s), [] => .ok (o, some s)
    | some (.setting s), '=' :: value => (o.set s (String.ofList value)).map (·, .none)
    | some (.setting s), value => (o.set s (String.ofList value)).map (·, .none)

/-- The options after the word behind two dashes, and the option that its value is still to come for. -/
def readWord (o : Options) (cs : List Char) : Except Ending (Options × Option Setting) :=
  let word := String.ofList (cs.takeWhile (· ≠ '='))
  match Name.ofWord? word, cs.dropWhile (· ≠ '=') with
  | some (.switch s), [] => (o.flip s).map (·, .none)
  | some (.setting s), [] => .ok (o, some s)
  | some (.setting s), _ :: value => (o.set s (String.ofList value)).map (·, .none)
  | _, _ => .error .misuse

/-- The options after the remaining arguments; `pending` waits for its value. Two dashes end the options,
and nothing may follow them. -/
def readFrom (o : Options) (pending : Option Setting) : List String → Except Ending Options
  | [] => if pending.isSome then .error .misuse else .ok o
  | arg :: args =>
    match pending, arg.toList with
    | .none, ['-', '-'] => if args.isEmpty then .ok o else .error .misuse
    | .none, '-' :: '-' :: cs =>
      match o.readWord cs with
      | .ok (o, pending) => readFrom o pending args
      | .error e => .error e
    | .none, '-' :: c :: cs =>
      match o.readLetters (c :: cs) with
      | .ok (o, pending) => readFrom o pending args
      | .error e => .error e
    | .none, _ => .error .misuse
    | some _, '-' :: _ :: _ => .error .misuse
    | some s, _ =>
      match o.set s arg with
      | .ok o => readFrom o .none args
      | .error e => .error e

def parse (args : List String) : Except Ending Options := readFrom none .none args

end Options

end Haptics.CommandLine
