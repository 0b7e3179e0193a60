import ShaperDash.Config
import ShaperDash.File.Tree
import ShaperDash.Status

/-!
# Reading settings and status from files

Where the files of a user lie, and how the settings and the status are read from them.  Settings
that do not exist are the default settings; every other obstacle is a `LoadError`.
-/

namespace ShaperDash

/-- Why settings or a status could not be had from a file. -/
inductive LoadError
  | unreadable (path : String) (fault : ReadFault)
  | malformed (path : String) (fault : Json.DecodeError)
  | invalid (fault : ConfigFault)
  deriving DecidableEq, Repr

namespace LoadError

def message : LoadError → String
  | .unreadable path fault => "cannot read " ++ path ++ ": " ++ fault.message
  | .malformed path fault => "malformed JSON in " ++ path ++ ": " ++ fault.message
  | .invalid fault => "invalid configuration: " ++ fault.message

/-- There is no file at the path. -/
def isNotFound : LoadError → Bool
  | .unreadable _ .notFound => true
  | _ => false

end LoadError

namespace FileTree

variable (t : FileTree)

/-- Reads the status at a path. -/
def readStatus (path : String) : Except LoadError Status :=
  match t.readText path with
  | .error e => .error (.unreadable path e)
  | .ok text => (Status.decode text).mapError (.malformed path)

/-- Reads the settings at a path. -/
def readConfig (path : String) : Except LoadError Config :=
  match t.readText path with
  | .error .notFound => .ok .default
  | .error e => .error (.unreadable path e)
  | .ok text =>
    match Config.decode text with
    | .error e => .error (.malformed path e)
    | .ok c =>
      match c.fault? with
      | some f => .error (.invalid f)
      | none => .ok c

end FileTree

/-! ### Places -/

/-- What the environment says about the directories of a user. -/
structure Environment where
  configHome : Option String
  dataHome : Option String
  home : String
  deriving DecidableEq, Repr

/-- A path below another. -/
def joinPath (base name : String) : String :=
  if base = "" ∨ base.toList.getLast? = some '/' then base ++ name else base ++ "/" ++ name

namespace Environment

variable (e : Environment)

/-- A directory set in the environment counts only as an absolute path. -/
def baseDirectory (set : Option String) (fallback : String) : String :=
  match set with
  | some d => if d.toList.head? = some '/' then d else joinPath e.home fallback
  | none => joinPath e.home fallback

/-- Where the settings lie. -/
def configPath : String :=
  joinPath (joinPath (e.baseDirectory e.configHome ".config") "qosview") "config.json"

/-- The directory of the log. -/
def logDirectory : String := joinPath (e.baseDirectory e.dataHome ".local/share") "qosview"

/-- Where the log goes. -/
def logPath : String := joinPath e.logDirectory "qosview.log"

end Environment

/-- Reads the settings of the user. -/
def FileTree.loadConfig (t : FileTree) (e : Environment) : Except LoadError Config :=
  t.readConfig e.configPath

end ShaperDash
