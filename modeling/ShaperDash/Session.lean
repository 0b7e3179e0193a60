import ShaperDash.Dashboard
import ShaperDash.Log.Sink

/-!
# Sessions

A session opens the log, reads the settings and takes the terminal.  Then it updates its dashboard
once per tick and follows the keys in between, until one of them ends it or the terminal fails.

What a session does next is its `Stage`, and `Stage.step` says what it does in one `Moment` of the
world around it.  A `Session` is a stage together with the files and the log, and
`SessionInput.run` is a session from its beginning through all of its moments.
-/

namespace ShaperDash

/-! ### Moments -/

/-- A key with what was held down. -/
structure KeyPress where
  key : Key
  control : Bool
  deriving DecidableEq, Repr

/-- The key ends the session. -/
def KeyPress.isQuit (k : KeyPress) : Bool :=
  (k.control && Dashboard.isToggle k.key) || Dashboard.isQuit k.key

/-- What waiting for a key comes to. -/
inductive Wait
  /-- No key was pressed in time. -/
  | nothing
  | key (k : KeyPress)
  /-- No more keys can be read. -/
  | lost
  deriving DecidableEq, Repr

/-- What a session finds in one moment. -/
structure Moment where
  /-- The terminal does what it is asked to. -/
  terminal : Bool
  wait : Wait
  reading : Reading
  sample : Option SystemSample
  /-- Nanoseconds on the clock. -/
  now : Nat
  /-- Nanoseconds on the clock when the moment is over. -/
  finished : Nat
  /-- What other programs do to the files afterwards. -/
  changes : List Change

/-! ### Stages -/

/-- A session that shows its dashboard. -/
structure Running where
  /-- Nanoseconds between two updates. -/
  tick : Nat
  dashboard : Dashboard
  /-- Nanoseconds on the clock at the latest tick. -/
  lastTick : Nat
  /-- Keys have been waited for. -/
  watching : Bool

/-- What a session does next. -/
inductive Stage
  /-- Takes the terminal. -/
  | entering (c : Config)
  | updating (r : Running)
  /-- Draws the dashboard and waits for a key. -/
  | waiting (r : Running)
  /-- Gives the terminal back; `failed` says that it failed before. -/
  | leaving (failed : Bool)
  | ended (exitCode : Nat)

/-- The settings to go on with, and the event of settings that had to be replaced. -/
def Config.ofLoad : Except LoadError Config → Config × List LogEvent
  | .ok c => (c, [])
  | .error e => (.default, [.configRejected e])

namespace Running

variable (r : Running) (m : Moment)

/-- What comes behind a wait: an update as soon as the tick is over. -/
def goOn : Stage := if r.tick ≤ m.finished - r.lastTick then .updating r else .waiting r

/-- The tick begins anew with each update but the first, for which it begins before. -/
def update (files : FileTree) : Stage × List LogEvent :=
  let (d, events) := r.dashboard.update ⟨m.reading, m.sample, files, m.now⟩
  let lastTick := if r.watching then m.finished else r.lastTick
  (.waiting { r with dashboard := d, lastTick := lastTick }, events)

/-- The first wait opens the places that keys come from. -/
def watched : List LogEvent := if r.watching then [] else LogEvent.keysWatched

/-- Draws the dashboard, waits for a key and follows it. -/
def wait : Stage × List LogEvent :=
  if !m.terminal then (.leaving true, [])
  else
    match m.wait with
    | .lost => (.leaving true, r.watched)
    | .nothing => ({ r with watching := true }.goOn m, r.watched)
    | .key k =>
      if k.isQuit then (.leaving false, r.watched)
      else
        let (d, events) := r.dashboard.press k.key
        ({ r with dashboard := d, watching := true }.goOn m, r.watched ++ events)

end Running

namespace Stage

/-- How a session begins that has loaded its settings, or could not. -/
def opening (loaded : Except LoadError Config) : Stage × List LogEvent :=
  let (c, rejected) := Config.ofLoad loaded
  (.entering c, rejected ++ [.starting c])

/-- The exit code of a session that finds a history too long to be held. -/
def overflowCode : Nat := 101

/-- What a session does in a moment, where it goes on, and what it has to tell. -/
def step (files : FileTree) (m : Moment) : Stage → Stage × List LogEvent
  | .entering c =>
    if !m.terminal then (.ended 1, [])
    else
      match Dashboard.start? c with
      | none => (.ended overflowCode, [])
      | some d => (.updating ⟨c.tickInterval, d, m.finished, false⟩, [])
  | .updating r => r.update m files
  | .waiting r => r.wait m
  | .leaving failed =>
    if !m.terminal then (.ended 1, []) else (.ended (if failed then 1 else 0), [.exiting])
  | .ended code => (.ended code, [])

end Stage

/-! ### Sessions -/

/-- A session with the files around it. -/
structure Session where
  files : FileTree
  sink : Option LogSink
  /-- All events so far, whether or not the filter let them pass. -/
  told : List LogEvent
  stage : Stage

namespace Session

variable (x : Session)

/-- There is no exit code as long as the session goes on. -/
def exitCode : Option Nat :=
  match x.stage with
  | .ended code => some code
  | _ => none

/-- What the stage makes of the session in a moment. -/
def advance (m : Moment) : Session :=
  let (stage, events) := x.stage.step x.files m
  { x with
    files := (x.files.record x.sink events).changes m.changes
    told := x.told ++ events
    stage := stage }

/-- The session after a moment; one that has ended stays as it is. -/
def step (m : Moment) : Session := if x.exitCode.isSome then x else x.advance m

/-- The session after some moments. -/
def after (ms : List Moment) : Session := ms.foldl step x

end Session

/-- What a session starts from, and what it will find. -/
structure SessionInput where
  environment : Environment
  /-- The filter of the log, as the user wrote it. -/
  logFilter : Option String
  /-- The time that stands on the lines of the log. -/
  stamp : String
  moments : List Moment

namespace SessionInput

variable (s : SessionInput)

/-- The log of the session and the file system in which it is open. -/
def openLog (files : FileTree) : FileTree × Option LogSink :=
  let route := files.routeOf s.environment.logPath
  match files.openLog route with
  | some files => (files, some ⟨route, .ofText? s.logFilter, s.stamp⟩)
  | none => (files, none)

/-- The session when it has read its settings. -/
def begin (files : FileTree) : Session :=
  let (files, sink) := s.openLog files
  let (stage, events) := Stage.opening (files.loadConfig s.environment)
  ⟨files.record sink events, sink, events, stage⟩

/-- One session. -/
def run (files : FileTree) : Session := (s.begin files).after s.moments

/-- Several sessions, one after the other; each finds the files that the one before left. -/
def runs : Nat → FileTree → FileTree × List (Option Nat)
  | 0, files => (files, [])
  | n + 1, files =>
    let x := s.run files
    let (files, codes) := runs n x.files
    (files, x.exitCode :: codes)

end SessionInput

end ShaperDash
