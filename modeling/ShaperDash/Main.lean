import ShaperDash.Pane
import ShaperDash.Terminal
import Std.Time

/-!
# The program

Looks at the environment, the files and the counters of the interfaces, draws the dashboard and
waits for keys.  Everything that is decided is decided elsewhere, above all in `Stage.step`; here
the world is looked at and the results are written.  Two things of a session are left out: the load
of the machine is not measured, and keys are read line by line, so that a tick that is over is
noticed with the next line.
-/

namespace ShaperDash.Main

/-! ### Looking at the world -/

/-- The value of an environment variable. -/
def environment : IO Environment := do
  let configHome ← IO.getEnv "XDG_CONFIG_HOME"
  let dataHome ← IO.getEnv "XDG_DATA_HOME"
  let home ← IO.getEnv "HOME"
  return ⟨configHome, dataHome, home.getD ""⟩

/-- The tree with what stands at a path. -/
def look (files : FileTree) (path : String) : IO FileTree := do
  if path.toList.contains '\x00' then return files
  let r := files.routeOf path
  match ← (IO.FS.readBinFile path).toBaseIO with
  | .ok bytes => return (files.clearWay path).writeFile r bytes
  | .error (.inappropriateType _ 21 _) => return (files.clearWay path).makeDirectories r
  | .error (.inappropriateType ..) => return files.writeFile r.dropLast .empty
  | .error _ => return files

/-- The tree that holds the working directory. -/
def blankTree : IO FileTree := do
  let here := toString (← IO.currentDir)
  return .ofWorkingDirectory ((FileTree.names here).filter (· ≠ ""))

/-- A size in an environment variable, if there is one. -/
def sizeIn (name : String) (usual : Nat) : IO Nat := do
  return ((← IO.getEnv name).bind String.toNat?).getD usual

/-- An interface as a line of the system's table tells it: its name, a colon and its counters, the
first of bytes received and the ninth of bytes transmitted. -/
def interface? (line : String) : Option Interface := do
  let [name, counters] := line.splitOn ":" | none
  let counters := (counters.splitOn " ").filterMap String.toNat?
  return ⟨name.trimAscii.toString, .ofNat (← counters[0]?), .ofNat (← counters[8]?)⟩

/-- The byte counters of all interfaces. -/
def reading : IO Reading := do
  let table ← (IO.FS.readFile "/proc/net/dev").toBaseIO
  let interfaces := ((table.toOption.getD "").splitOn "\n").filterMap interface?
  return .ofInterfaces interfaces (← IO.monoNanosNow)

/-! ### The log -/

/-- An open log with its filter. -/
structure Log where
  handle : IO.FS.Handle
  filter : Filter

/-- Opens the log, if that is possible. -/
def openLog (e : Environment) : IO (Option Log) := do
  try
    IO.FS.createDirAll e.logDirectory
    let handle ← IO.FS.Handle.mk e.logPath .append
    return some ⟨handle, .ofText? (← IO.getEnv "RUST_LOG")⟩
  catch _ => return none

/-- The time as it stands on the lines of the log. -/
def stamp : IO String := do
  let now := Std.Time.DateTime.ofTimestampWithZone (← Std.Time.Timestamp.now) .UTC
  return now.format "uuuu-MM-dd'T'HH:mm:ss.SSSSSS'Z'"

/-- Adds the events that pass. -/
def record (log : Option Log) (events : List LogEvent) : IO Unit := do
  let some log := log | return
  for e in events do
    if log.filter.passes e then log.handle.putStr (e.line (← stamp))
  log.handle.flush

/-! ### The session -/

/-- What stays the same during a session. -/
structure Context where
  environment : Environment
  log : Option Log
  width : Nat
  height : Nat
  /-- Nanoseconds on the clock when the session began. -/
  start : Nat

/-- Draws the dashboard. -/
def draw (c : Context) (d : Dashboard) : IO Unit := do
  let now ← Std.Time.DateTime.now
  let elapsed := wholeSeconds ((← IO.monoNanosNow) - c.start)
  let picture := d.draw ⟨elapsed, now.format "HH:mm:ss"⟩ c.width c.height
  let out ← IO.getStdout
  out.putStr (Terminal.frame picture c.width c.height)
  out.flush

/-- Writes to the terminal, if there is one. -/
def say (text : String) : IO Bool := do
  let out ← IO.getStdout
  if !(← (← IO.getStdin).isTty) || !(← out.isTty) then return false
  out.putStr text
  out.flush
  return true

/-- The next key and those behind it; keys come in lines. -/
def awaitKey : List KeyPress → IO (Wait × List KeyPress)
  | k :: ks => return (.key k, ks)
  | [] => do
    let line ← (← IO.getStdin).getLine
    if line.isEmpty then return (.lost, [])
    match Terminal.keyPresses line.toList with
    | [] => return (.nothing, [])
    | k :: ks => return (.key k, ks)

/-- The files that matter to a stage. -/
def filesOf : Stage → IO FileTree
  | .updating r => do
    match r.dashboard.statusSource with
    | some path => look (← blankTree) path
    | none => blankTree
  | _ => blankTree

/-- Does what a stage asks the world for, and looks at what it finds.  The load of the machine is
not measured: the dashboard keeps the empty one. -/
def meet (c : Context) (pending : List KeyPress) : Stage → IO (Moment × List KeyPress)
  | .waiting r => do
    draw c r.dashboard
    let (wait, pending) ← awaitKey pending
    let now ← IO.monoNanosNow
    return (⟨true, wait, ⟨0, 0, "", now⟩, none, now, now, []⟩, pending)
  | .updating _ => do
    let r ← reading
    let now ← IO.monoNanosNow
    return (⟨true, .nothing, r, none, now, ← IO.monoNanosNow, []⟩, pending)
  | stage => do
    let text := if stage matches .entering _ then Terminal.enter else Terminal.leave
    let terminal ← say text
    let now ← IO.monoNanosNow
    return (⟨terminal, .nothing, ⟨0, 0, "", now⟩, none, now, now, []⟩, pending)

/-- Goes from stage to stage until the session has ended; its result is the exit code. -/
partial def follow (c : Context) (pending : List KeyPress) : Stage → IO UInt32
  | .ended code => do
    if code = Stage.overflowCode then (← IO.getStderr).putStr "capacity overflow\n"
    return .ofNat code
  | stage => do
    let files ← filesOf stage
    let (moment, pending) ← meet c pending stage
    let (stage, events) := stage.step files moment
    record c.log events
    follow c pending stage

/-- One session; its result is the exit code. -/
def session : IO UInt32 := do
  let e ← environment
  let log ← openLog e
  let files ← look (← blankTree) e.configPath
  let (stage, events) := Stage.opening (files.loadConfig e)
  record log events
  let c : Context := ⟨e, log, ← sizeIn "COLUMNS" 80, ← sizeIn "LINES" 24, ← IO.monoNanosNow⟩
  follow c [] stage

end ShaperDash.Main

def main : IO UInt32 := ShaperDash.Main.session
