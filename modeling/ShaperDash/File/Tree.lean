/-!
# Files

A `FileTree` is what a program can see of a file system: files with their bytes, directories, and
the directory that relative paths start from.  `FileTree.readText` reads a file as text or says why
it cannot, in the order in which a walk along the path meets the obstacles.
-/

namespace ShaperDash

/-- What stands at a path. -/
inductive Entry
  | file (bytes : ByteArray)
  | directory

/-- Why a file cannot be read as text. -/
inductive ReadFault
  | notFound
  | notADirectory
  | isADirectory
  | nameTooLong
  | nulInName
  | notUtf8
  deriving DecidableEq, Repr

def ReadFault.message : ReadFault → String
  | .notFound => "No such file or directory (os error 2)"
  | .notADirectory => "Not a directory (os error 20)"
  | .isADirectory => "Is a directory (os error 21)"
  | .nameTooLong => "File name too long (os error 36)"
  | .nulInName => "file name contained an unexpected NUL byte"
  | .notUtf8 => "stream did not contain valid UTF-8"

/-- The names along a path from the root. -/
abbrev Route := List String

/-- Files and directories by their routes. -/
structure FileTree where
  entries : List (Route × Entry)
  workingDirectory : Route

namespace FileTree

variable (t : FileTree)

/-! ### Looking up -/

/-- What stands at a route. -/
def entry? (r : Route) : Option Entry :=
  if r = [] then some .directory else t.entries.lookup r

/-- The longest name that a directory can hold, in bytes. -/
def maxName : Nat := 255

/-- The length from which on a path is refused, in bytes. -/
def maxPath : Nat := 4096

/-- One step of a walk that has come to `here`. -/
def enter (here : Route) (name : String) : Except ReadFault Route :=
  match t.entry? here with
  | some .directory =>
    if name = "" ∨ name = "." then .ok here
    else if name = ".." then .ok here.dropLast
    else if maxName < name.utf8ByteSize then .error .nameTooLong
    else if (t.entry? (here ++ [name])).isSome then .ok (here ++ [name])
    else .error .notFound
  | some (.file _) => .error .notADirectory
  | none => .error .notFound

/-- The names of a path, with an empty name wherever two slashes meet or the path begins or ends
with one. -/
def names (path : String) : List String := (path.toList.splitOn '/').map String.ofList

/-- Where a step leads if nothing is in its way: up for two points, nowhere for one point and for no
name at all. -/
def advance (here : Route) (name : String) : Route :=
  if name = "" ∨ name = "." then here
  else if name = ".." then here.dropLast
  else here ++ [name]

theorem eq_advance_of_enter {here r : Route} {name : String} (h : t.enter here name = .ok r) :
    r = advance here name := by
  unfold enter at h
  unfold advance
  grind

/-- Where the walk along a path begins. -/
def origin (path : String) : Route :=
  if path.toList.head? = some '/' then [] else t.workingDirectory

/-- The route that a path spells, whatever stands along it. -/
def routeOf (path : String) : Route := (names path).foldl advance (t.origin path)

/-- The route that a path leads along. -/
def resolve (path : String) : Except ReadFault Route :=
  if path.toList.contains '\x00' then .error .nulInName
  else if path = "" then .error .notFound
  else if maxPath ≤ path.utf8ByteSize then .error .nameTooLong
  else (names path).foldlM t.enter (t.origin path)

/-- The bytes of the file at a path. -/
def readBytes (path : String) : Except ReadFault ByteArray :=
  match t.resolve path with
  | .error e => .error e
  | .ok r =>
    match t.entry? r with
    | some (.file bytes) => .ok bytes
    | some .directory => .error .isADirectory
    | none => .error .notFound

/-- The text of the file at a path. -/
def readText (path : String) : Except ReadFault String :=
  match t.readBytes path with
  | .error e => .error e
  | .ok bytes =>
    match String.fromUTF8? bytes with
    | some s => .ok s
    | none => .error .notUtf8

/-! ### Changing -/

/-- The tree without what stands at a route and below it. -/
def remove (r : Route) : FileTree :=
  { t with entries := t.entries.filter fun e => !r.isPrefixOf e.1 }

/-- The tree with a directory at a route where nothing stood. -/
def makeDirectory (r : Route) : FileTree :=
  if (t.entry? r).isSome then t else { t with entries := (r, .directory) :: t.entries }

/-- The tree with directories all along a route, where nothing stood. -/
def makeDirectories (r : Route) : FileTree :=
  (List.range (r.length + 1)).foldl (fun t n => t.makeDirectory (r.take n)) t

/-- The tree with a file at a route. -/
def writeFile (r : Route) (bytes : ByteArray) : FileTree :=
  let t := (t.remove r).makeDirectories r.dropLast
  { t with entries := (r, .file bytes) :: t.entries }

/-- The tree with directories wherever the walk along a path comes through. -/
def clearWay (path : String) : FileTree :=
  (List.range (names path).length).foldl (fun t n =>
    t.makeDirectories (((names path).take n).foldl advance (t.origin path))) t

/-- A tree that holds the working directory and nothing else. -/
def ofWorkingDirectory (r : Route) : FileTree := makeDirectories ⟨[], r⟩ r

end FileTree

/-! ### Other programs -/

/-- What another program does to the files. -/
inductive Change
  | write (r : Route) (bytes : ByteArray)
  | remove (r : Route)
  | makeDirectories (r : Route)

/-- Where the change is made. -/
def Change.route : Change → Route
  | write r _ => r
  | remove r => r
  | makeDirectories r => r

namespace FileTree

/-- The tree after a change. -/
def change (t : FileTree) : Change → FileTree
  | .write r bytes => t.writeFile r bytes
  | .remove r => t.remove r
  | .makeDirectories r => t.makeDirectories r

/-- The tree after some changes, one after the other. -/
def changes (t : FileTree) (cs : List Change) : FileTree := cs.foldl change t

end FileTree

end ShaperDash
