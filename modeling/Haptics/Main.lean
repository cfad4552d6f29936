import Haptics.CommandLine.Run

/-!
# The program

`main` takes a picture of the files that the command line looks at, runs it on that picture, prints its
report, and sends the frames of a demonstration to the device. It does not go on as a daemon.
-/

namespace Haptics.CommandLine

/-! ### The picture -/

/-- What the environment says about places. -/
def readEnvironment : IO Environment := do
  let home ← IO.getEnv "HOME"
  let configHome ← IO.getEnv "XDG_CONFIG_HOME"
  let runtimeDir ← IO.getEnv "XDG_RUNTIME_DIR"
  let tempDir ← IO.getEnv "TMPDIR"
  return ⟨home, configHome, runtimeDir, tempDir, "/"⟩

/-- The tree with a node at a path, unless another kind of node is in the way. -/
def pictured (target : String) (node : Node) (t : Tree) : Tree := (t.put target node).toOption.getD t

/-- The tree with a file of the system at a path, if it can be read. -/
def takeFile (source target : String) (t : Tree) : IO Tree := do
  match ← (IO.FS.readBinFile source).toBaseIO with
  | .ok content => return pictured target (.file content.toList) t
  | .error _ => return t

/-- The tree with a device node of the system, which is opened but not read. In the picture it echoes
what is written to it, so that every command finds an answer. -/
def takeNode (source target : String) (t : Tree) : IO Tree := do
  match ← (IO.FS.Handle.mk source .readWrite).toBaseIO with
  | .ok _ => return pictured target (.pipe true []) t
  | .error (.permissionDenied ..) =>
    let t := pictured target (.pipe true []) t
    return (t.deny "/" target).toOption.getD t
  | .error _ => return t

/-- How many raw HID devices, and how many inputs of each, are looked at. -/
def deviceLimit : Nat := 64
def inputLimit : Nat := 256

/-- The tree with what the system says about a raw HID device. The folder of its interface, in which the
system has the folder of the device, is that of the entry here. -/
def takeDevice (entry : String) (t : Tree) : IO Tree := do
  let folder := Path.join "/sys/class/hidraw" entry
  let properties := Path.join folder "device/uevent"
  let withProperties ← takeFile properties properties t
  if !withProperties.exists? "/" properties then return t
  let descriptor := Path.join folder "device/report_descriptor"
  let mut t ← takeFile descriptor descriptor withProperties
  t ← takeFile (Path.join folder "device/../bInterfaceNumber") (Path.join folder "bInterfaceNumber") t
  for i in [0:inputLimit] do
    let name := Path.join folder ("device/input/input" ++ Text.showNat i ++ "/name")
    t ← takeFile name name t
  takeNode (Path.join "/dev" entry) (Path.join "/dev" entry) t

/-- A picture of what the program looks at with its options; relative paths start at `base`. -/
def takePicture (env : Environment) (base : String) (o : Options) : IO Tree := do
  let mut t := Tree.initial
  for path in Settings.candidates env o.config do
    t ← takeFile path (Path.join base path) t
  for i in [0:deviceLimit] do
    t ← takeDevice ("hidraw" ++ Text.showNat i) t
  for path in o.devicePath do
    t ← takeNode path (Path.join base path) t
  return t

/-! ### The report -/

/-- The device that a demonstration is played on. -/
def demoDevice? (env : Environment) (t : Tree) (base : String) (o : Options) : Option Candidate :=
  let s := (Settings.obtain env t base o.config).1
  if o.demo && !o.listDevices then (searchOf o s).candidate? (t.files base) (preferredOf o s) else none

/-- Sends frames to a device, each after its line is printed and with a pause behind it; the last frame
has neither. -/
def perform (device : IO.FS.Handle) : List String → List Bytes → IO Unit
  | lines, frame :: frames => do
    lines.head?.forM fun line => IO.println line
    device.write (ByteArray.mk frame.toArray)
    device.flush
    if !frames.isEmpty then IO.sleep demoPauseMs.toUInt32
    perform device lines.tail frames
  | lines, [] => lines.forM fun line => IO.println line

/-- Prints what a run leaves; `device` plays what the run wrote. -/
def printReport (r : Report) (device : Option Candidate) (frames : List Bytes) : IO Unit := do
  match device with
  | some c =>
    if frames.isEmpty then r.lines.forM fun line => IO.println line
    else perform (← IO.FS.Handle.mk c.path .readWrite) r.lines frames
  | none => r.lines.forM fun line => IO.println line
  r.failure.forM fun text => IO.eprintln text

end Haptics.CommandLine

open Haptics Haptics.CommandLine in
def main (args : List String) : IO UInt32 := do
  let env ← readEnvironment
  let base := (← IO.getEnv "PWD").getD "/"
  let o := (Options.parse args).toOption.getD .none
  let t ← takePicture env base o
  match run Host.transport.traced env t base args (.start (.idle t base) 0) with
  | some (r, w) =>
    printReport r (demoDevice? env t base o) (w.calls.filterMap fun (_, call) => call.written?)
    return r.exitCode.toUInt32
  | none =>
    IO.eprintln "This program lists devices and plays demonstrations; it does not run as a daemon."
    return 1
