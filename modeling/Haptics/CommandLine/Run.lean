import Haptics.CommandLine.Options
import Haptics.Discovery.Search
import Haptics.Settings.Store
import Haptics.System.Host

/-!
# Running the program

What the program does with its options, as far as it ends by itself: it lists the devices, or it plays every
effect once on the device that it finds. The result is what it prints, how it exits and what it logs.
-/

namespace Haptics.CommandLine

/-- What is left of a run that has ended. -/
structure Report where
  exitCode : Nat
  /-- The lines printed, those of the log left out. -/
  lines : List String
  failure : Option String
  levels : List Level

/-- The exit code of a misuse, and that of a failure. -/
def misuseCode : Nat := 2
def failureCode : Nat := 1

def versionLine : String := Environment.programName ++ " 0.1.0"

def helpLines : List String :=
  ["mx4hyprland - MX Master 4 haptic feedback for Hyprland",
   "",
   "Usage: mx4hyprland [OPTIONS]",
   "",
   "Options:",
   "  -c, --config <CONFIG>            Configuration file path",
   "  -l, --log-level <LOG_LEVEL>      Log level [default: info] [possible values: debug, info, warning, error]",
   "  -v, --verbose                    Enable verbose logging (same as --log-level debug)",
   "      --connection <CONNECTION>    Only use this connection type (bolt or bluetooth)",
   "      --device-path <DEVICE_PATH>  Bluetooth hidraw node to use instead of scanning",
   "      --list-devices               List detected MX Master 4 interfaces and exit",
   "      --demo                       Play every effect once and exit",
   "  -h, --help                       Print help",
   "  -V, --version                    Print version"]

def Ending.report : Ending → Report
  | help => ⟨0, helpLines, none, []⟩
  | version => ⟨0, [versionLine], none, []⟩
  | misuse => ⟨misuseCode, [], none, []⟩

/-! ### Listing -/

def deviceLines (number : Nat) (c : Candidate) : List String :=
  [Text.showNat number ++ ". " ++ c.name ++ " [" ++ c.connection.displayName ++ "]",
   "   Path:      " ++ Text.quoted c.path] ++
    c.index.toList.map (fun i => "   Interface: " ++ Text.showNat i.toNat) ++ [""]

/-- What is printed if there is no device. -/
def adviceLines : List String :=
  ["No MX Master 4 found.",
   "",
   "Troubleshooting:",
   "  - Ensure your MX Master 4 is connected",
   "  - Check that udev rules are installed",
   "  - Verify user has access to /dev/hidraw*"]

def listLines (devices : List Candidate) : List String :=
  ["Scanning for MX Master 4 interfaces...", ""] ++
    if devices.isEmpty then adviceLines
    else ("Found " ++ Text.showNat devices.length ++ " interface(s):") :: "" ::
      devices.zipIdx.flatMap fun (c, i) => deviceLines (i + 1) c

/-! ### Playing every effect -/

def openLevels : Except DeviceError Unit → List Level
  | .ok () => [.info]
  | .error (.disconnected _) => []
  | .error _ => [.error]

def playLevels : Except DeviceError Outcome → List Level
  | .error (.disconnected _) => [.debug, .warning]
  | _ => [.debug]

/-- What came of a part of the demonstration. -/
structure Progress (W H : Type) where
  lines : List String
  levels : List Level
  result : Except DeviceError Unit
  mouse : Mouse H
  world : W

variable {W H : Type}

/-- Plays effects one after the other, each announced, until one fails. -/
def playAll (t : Transport W H) (s : Mouse H) (w : W) : List Nat → Progress W H
  | [] => ⟨[], [], .ok (), s, w⟩
  | n :: ns =>
    let line := "Effect " ++ Text.showNat n
    match s.send t (Int64.ofNat n) w with
    | (.error e, s, w) => ⟨[line], playLevels (.error e), .error e, s, w⟩
    | (.ok o, s, w) =>
      let p := playAll t s w ns
      { p with lines := line :: p.lines, levels := playLevels (.ok o) ++ p.levels }

def demoEffects : List Nat := List.range' 1 15

/-- The time between two effects of the demonstration, in milliseconds. -/
def demoPauseMs : Nat := 2000

/-- Stops the motor, then gives the mouse back. -/
def endDemo (t : Transport W H) (s : Mouse H) (w : W) : Progress W H :=
  match s.send t 0 w with
  | (.error e, s, w) => ⟨[], playLevels (.error e), .error e, s, w⟩
  | (.ok o, s, w) =>
    match s.closed t w with
    | (r, s, w) => ⟨[], playLevels (.ok o), r, s, w⟩

/-- Acquires a mouse, plays every effect, stops the motor and gives the mouse back. -/
def demo (t : Transport W H) (s : Mouse H) (w : W) : Progress W H :=
  match s.opened t w with
  | (.error e, s, w) => ⟨[], openLevels (.error e), .error e, s, w⟩
  | (.ok (), s, w) =>
    let p := playAll t s w demoEffects
    match p.result with
    | .error _ => { p with levels := .info :: p.levels }
    | .ok () =>
      let q := endDemo t p.mouse p.world
      { q with lines := p.lines, levels := .info :: p.levels ++ q.levels }

/-! ### The program -/

def Progress.report (p : Progress W H) : Report :=
  match p.result with
  | .ok () => ⟨0, p.lines, none, p.levels⟩
  | .error e => ⟨failureCode, p.lines, some ("Error: " ++ e.debug), p.levels⟩

/-- The levels of what is logged before anything is done with the options. -/
def startLevels (notices : List Settings.Notice) : List Level := .info :: notices.map (·.level)

/-- The search that options and settings ask for. -/
def searchOf (o : Options) (s : Settings) : Search :=
  .system o.devicePath s.daemon.responseTimeoutMs

/-- The connection that options and settings ask for. -/
def preferredOf (o : Options) (s : Settings) : Option Connection := o.connection.or s.daemon.connection

/-- The report of a demonstration on the device that is found. -/
def demonstrate (t : Transport W H) (f : Files) (o : Options) (s : Settings) (w : W) : Report × W :=
  let l := searchOf o s
  let preferred := preferredOf o s
  let levels := (l.notices f preferred).map (·.level)
  match l.find f preferred with
  | none => (⟨failureCode, [], some ("Error: " ++ DeviceError.notFound.debug), levels⟩, w)
  | some mouse =>
    let p := demo t mouse w
    ({ p.report with levels := levels ++ p.report.levels }, p.world)

/-- Runs the program over device nodes and files; none if it would go on as a daemon. -/
def runOptions (t : Transport W H) (env : Environment) (tree : Tree) (base : String) (o : Options) (w : W) :
    Option (Report × W) :=
  match Settings.obtain env tree base o.config with
  | (s, notices) =>
    let finish (r : Report) : Report :=
      { r with levels := Level.shown o.leastLevel (startLevels notices ++ r.levels) }
    let f := tree.files base
    if o.listDevices then some (finish ⟨0, listLines ((searchOf o s).list f), none, []⟩, w)
    else if o.demo then
      match demonstrate t f o s w with
      | (r, w) => some (finish r, w)
    else none

/-- Runs the program with its arguments; none if it would go on as a daemon. -/
def run (t : Transport W H) (env : Environment) (tree : Tree) (base : String) (args : List String) (w : W) :
    Option (Report × W) :=
  match Options.parse args with
  | .error e => some (e.report, w)
  | .ok o => runOptions t env tree base o w

end Haptics.CommandLine
