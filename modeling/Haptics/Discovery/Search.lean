import Haptics.Device.Mouse
import Haptics.Discovery.Properties
import Haptics.Level
import Haptics.System.Files
import Haptics.Wire.Descriptor

/-!
# Looking for the mouse

The mouse is found among the kernel's raw HID devices. A Bolt receiver is known by its vendor and its
report descriptor, the mouse itself over Bluetooth by its name and its identity. `find` gives the mouse
of the first candidate, `list` all candidates.
-/

namespace Haptics

/-- A device node that the mouse can be reached through. -/
structure Candidate where
  connection : Connection
  path : String
  name : String
  /-- The number of the receiver's interface; over Bolt only. -/
  index : Option UInt8
  deriving DecidableEq, Repr

/-- Where the mouse is looked for. -/
structure Search where
  classFolder : String
  deviceFolder : String
  /-- The node to use over Bluetooth, instead of a search. -/
  bluetoothPath : Option String
  /-- The wait for answers in the mice found, in milliseconds. -/
  timeoutMs : UInt64

namespace Search

def system (bluetoothPath : Option String) (timeoutMs : UInt64) : Search :=
  ⟨"/sys/class/hidraw", "/dev", bluetoothPath, timeoutMs⟩

def mouseName : String := "MX Master 4"

def receiverName : String := "Logitech receiver"

/-- The bus and the vendor of a receiver. -/
def usbBus : Nat := 0x0003
def vendor : Nat := 0x046D

def mouseIdentity : Discovery.Identity := ⟨0x0005, vendor, 0xB042⟩

/-- The usage page that a descriptor declares for HID++. -/
def commandPage : UInt16 := 0xFF00

/-- The path of something below the folder of a device, by the name of its entry. -/
def deviceFile (l : Search) (entry name : String) : String :=
  Path.join (Path.join l.classFolder entry) (Path.join "device" name)

def properties? (l : Search) (f : Files) (entry : String) : Option (List Char) :=
  f.text? (l.deviceFile entry "uevent")

/-- The number of the interface that a device belongs to: its folder stands in that of the interface. -/
def interface? (l : Search) (f : Files) (entry : String) : Option UInt8 :=
  (f.canonical (Path.join (Path.join l.classFolder entry) "device")).toOption.bind fun device =>
    (Path.parent? device).bind fun folder =>
      (f.text? (Path.join folder "bInterfaceNumber")).bind fun text =>
        (Text.readHex? 256 (Text.trim text)).map UInt8.ofNat

/-- Whether a device is a receiver's: its bus, its vendor and the usage page that it declares. -/
def isReceiver (l : Search) (f : Files) (entry : String) (properties : List Char) : Bool :=
  ((Discovery.value? Discovery.identityKey properties).bind Discovery.Identity.parse?).any
      (fun i => i.bus == usbBus && i.vendor == vendor) &&
    (f.content (l.deviceFile entry "report_descriptor")).toOption.any (Descriptor.declares commandPage)

/-- The candidate over Bolt that an entry stands for. -/
def overBolt? (l : Search) (f : Files) (entry : String) : Option Candidate :=
  (l.properties? f entry).bind fun properties =>
    if l.isReceiver f entry properties then
      (l.interface? f entry).map fun index =>
        ⟨.bolt, Path.join l.deviceFolder entry,
          ((Discovery.value? Discovery.nameKey properties).map String.ofList).getD receiverName, some index⟩
    else none

/-- The name of the first input of a device that has a readable one. -/
def reportedName? (l : Search) (f : Files) (entry : String) : Option (List Char) :=
  let folder := l.deviceFile entry "input"
  let inputs := (f.sortedNames folder).filter fun name => "input".toList.isPrefixOf name.toList
  (inputs.findSome? fun name => f.text? (Path.join (Path.join folder name) "name")).map Text.trim

def overBluetooth? (l : Search) (f : Files) (entry : String) : Option Candidate :=
  (l.properties? f entry).bind fun properties =>
    ((l.reportedName? f entry).or (Discovery.value? Discovery.nameKey properties)).bind fun name =>
      if Text.occursIn mouseName.toList name && Discovery.mentions mouseIdentity properties then
        some ⟨.bluetooth, Path.join l.deviceFolder entry, String.ofList name, none⟩
      else none

def entries (l : Search) (f : Files) : List String := f.sortedNames l.classFolder

/-- All candidates, those over Bolt first. -/
def list (l : Search) (f : Files) : List Candidate :=
  (l.entries f).filterMap (l.overBolt? f) ++ (l.entries f).filterMap (l.overBluetooth? f)

def firstOverBolt? (l : Search) (f : Files) : Option Candidate := (l.entries f).findSome? (l.overBolt? f)

/-- The first candidate over Bluetooth, or the node that is set, if it is there. -/
def firstOverBluetooth? (l : Search) (f : Files) : Option Candidate :=
  match l.bluetoothPath with
  | some path => if f.isThere path then some ⟨.bluetooth, path, mouseName, none⟩ else none
  | none => (l.entries f).findSome? (l.overBluetooth? f)

/-- The candidate to use: over the connection asked for, or over Bolt if there is one there. -/
def candidate? (l : Search) (f : Files) : Option Connection → Option Candidate
  | some .bolt => l.firstOverBolt? f
  | some .bluetooth => l.firstOverBluetooth? f
  | none => (l.firstOverBolt? f).or (l.firstOverBluetooth? f)

def mouseAt {H : Type} (l : Search) (c : Candidate) : Mouse H :=
  .new c.connection c.path c.index l.timeoutMs

def find {H : Type} (l : Search) (f : Files) (preferred : Option Connection) : Option (Mouse H) :=
  (l.candidate? f preferred).map l.mouseAt

/-! ### Notices -/

/-- What is logged while the mouse is looked for. -/
inductive Notice where
  /-- The node to use over Bluetooth is not there. -/
  | pathMissing
  | found
  | notFound
  deriving DecidableEq, Repr

def Notice.level : Notice → Level
  | pathMissing => .warning
  | found => .info
  | notFound => .debug

/-- Whether a search gets to the node that is set and does not find it. -/
def missesPath (l : Search) (f : Files) (preferred : Option Connection) : Bool :=
  l.bluetoothPath.any (fun path => !f.isThere path) &&
    match preferred with
    | some .bolt => false
    | some .bluetooth => true
    | none => (l.firstOverBolt? f).isNone

def notices (l : Search) (f : Files) (preferred : Option Connection) : List Notice :=
  (if l.missesPath f preferred then [.pathMissing] else []) ++
    [if (l.candidate? f preferred).isSome then .found else .notFound]

end Search

end Haptics
