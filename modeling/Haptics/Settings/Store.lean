import Haptics.Level
import Haptics.Settings.Reader
import Haptics.System.Tree
import Haptics.Text.Utf8

/-!
# Where settings are kept

The folders that the environment names, the files that settings are looked for in, and the settings that
a running program holds and reloads. `obtain` takes the first file that can be used.
-/

namespace Haptics

/-! ### Places -/

/-- What the environment says about places; `accountHome` is the home folder in the user database. -/
structure Environment where
  home : Option String
  configHome : Option String
  runtimeDir : Option String
  tempDir : Option String
  accountHome : String

namespace Environment

def programName : String := "mx4hyprland"

def homeFolder (env : Environment) : String := (env.home.filter (!·.isEmpty)).getD env.accountHome

/-- The folder for the sockets of a session: the one set, if it is absolute, or the one for temporary
files. -/
def runtimeFolder (env : Environment) : String :=
  (env.runtimeDir.filter Path.isAbsolute).getD (env.tempDir.getD "/tmp")

def configFolder (env : Environment) : String :=
  (env.configHome.filter Path.isAbsolute).getD (Path.join env.homeFolder ".config")

end Environment

namespace Settings

def fileName : String := "config.json"

def folder (env : Environment) : String := Path.join env.configFolder Environment.programName

def userFile (env : Environment) : String := Path.join (folder env) fileName

/-- The files that are tried in order: one that is named, or else the user's and then the one in the
working folder. -/
def candidates (env : Environment) : Option String → List String
  | some path => [path]
  | none => [userFile env, fileName]

end Settings

/-- The path of the command socket: the one set, or the program's own in the folder for sockets. -/
def DaemonSettings.socket (env : Environment) (d : DaemonSettings) : String :=
  d.commandSocket.getD (Path.join env.runtimeFolder (Environment.programName ++ ".sock"))

/-! ### Loading -/

namespace Settings

/-- Why a file of settings cannot be used. -/
inductive LoadError where
  | unreadable (cause : IoError)
  /-- The content is not a document of settings. -/
  | unparsable
  | flawed (flaw : Flaw)
  deriving DecidableEq, Repr

namespace LoadError

def message : LoadError → String
  | unreadable e => "I/O error: " ++ e.message
  | unparsable => "Parse error"
  | flawed f => "Validation error: " ++ f.message

def hasCause : LoadError → Bool
  | flawed _ => false
  | _ => true

end LoadError

/-- What is logged while settings are loaded. -/
inductive Notice where
  | missing (path : String)
  | failed (path : String) (error : LoadError)
  | usingDefaults
  | stray (event : String) (number : Int64)
  | loaded (path : String)
  | reloaded
  | replacedPoisoned

def Notice.level : Notice → Level
  | missing _ => .debug
  | failed .. => .error
  | usingDefaults | stray .. | replacedPoisoned => .warning
  | loaded _ | reloaded => .info

def load (t : Tree) (base path : String) : Except LoadError Settings :=
  match t.contentAt base path with
  | .error e => .error (.unreadable e)
  | .ok content =>
    if (Text.decode? content).isNone then .error (.unreadable .notUtf8)
    else match parse? content with
      | none => .error .unparsable
      | some s =>
        match s.check with
        | .error f => .error (.flawed f)
        | .ok () => .ok { s with source := some path }

def loadNotices (path : String) (s : Settings) : List Notice :=
  s.strayEffects.map (fun (event, n) => .stray event n) ++ [.loaded path]

/-- The settings in the first of the files that can be used, or the default ones. -/
def firstUsable (t : Tree) (base : String) : List String → Settings × List Notice
  | [] => (default, [.usingDefaults])
  | path :: paths =>
    if t.exists? base path then
      match load t base path with
      | .ok s => (s, loadNotices path s)
      | .error e =>
        match firstUsable t base paths with
        | (s, notices) => (s, .failed path e :: notices)
    else
      match firstUsable t base paths with
      | (s, notices) => (s, .missing path :: notices)

/-- The settings in the first candidate that can be used, or the default ones. -/
def obtain (env : Environment) (t : Tree) (base : String) (explicit : Option String) :
    Settings × List Notice :=
  firstUsable t base (candidates env explicit)

/-! ### Sharing -/

/-- The settings that a running program holds, under a lock that may have been poisoned. -/
structure Held where
  settings : Settings
  isPoisoned : Bool

namespace Held

def load (env : Environment) (t : Tree) (base : String) (explicit : Option String) :
    Held × List Notice :=
  match obtain env t base explicit with
  | (s, notices) => (⟨s, false⟩, notices)

/-- A holder of the lock died. What it guards can still be read and replaced. -/
def poison (s : Held) : Held := { s with isPoisoned := true }

/-- Other settings in place of those held. -/
def replace (s : Held) (settings : Settings) : Held := { s with settings := settings }

/-- Reads the candidates again and holds what they give now. -/
def reload (env : Environment) (t : Tree) (base : String) (explicit : Option String) (s : Held) :
    Held × List Notice :=
  match obtain env t base explicit with
  | (settings, notices) =>
    (s.replace settings, notices ++ (if s.isPoisoned then [.replacedPoisoned] else []) ++ [.reloaded])

end Held

end Settings

end Haptics
