import ShaperDash.File.Poller
import ShaperDash.Log.Event
import ShaperDash.SystemSample

/-!
# The dashboard

`Dashboard` is everything that is shown, and what the next update needs to know.  A `Step` is one
thing that can happen to it; `Dashboard.step` says what it does, which events it puts into the log
and whether the session should end.
-/

namespace ShaperDash

/-- A key on the keyboard: one that types a character, or one that has a name. -/
inductive Key
  | char (c : Char)
  | named (name : String)
  deriving DecidableEq, Repr

/-- What is shown, and what the next update needs to know. -/
structure Dashboard where
  palette : Palette
  /-- The hint that names the palette of the next toggle. -/
  paletteLabel : String
  history : History
  rates : Traffic
  interfaceName : String
  lastReading : Option Reading
  system : SystemSample
  status : Option Status
  poller : Option Poller
  deriving DecidableEq, Repr

namespace Dashboard

/-- The dashboard of a session that starts with these settings. -/
def start (c : Config) : Dashboard where
  palette := c.palette
  paletteLabel := c.palette.other.label
  history := .ofLimit c.historyLength.toNat
  rates := ⟨0, 0⟩
  interfaceName := "No Interface"
  lastReading := none
  system := .empty
  status := none
  poller := c.statusFile.map fun path => .ofPath path c.statusInterval

/-- The dashboard of a session that starts with these settings, if its history can be held. -/
def start? (c : Config) : Option Dashboard := do
  let history ← History.ofLimit? c.historyLength.toNat
  return { start c with history := history }

variable (d : Dashboard)

/-- Where the status comes from. -/
def statusSource : Option String := d.poller.map (·.path)

/-! ### Keys -/

/-- Switches to the other palette. -/
def toggle : Dashboard × List LogEvent :=
  let (palette, label) := d.palette.toggle
  ({ d with palette := palette, paletteLabel := label }, [.paletteToggled palette])

/-- The key ends the session. -/
def isQuit (k : Key) : Bool := k = .char 'q' || k = .char 'Q'

/-- The key switches to the other palette. -/
def isToggle (k : Key) : Bool := k = .char 'c' || k = .char 'C'

/-- Handles a key other than those that end the session. -/
def press (k : Key) : Dashboard × List LogEvent :=
  if isToggle k then d.toggle else (d, [])

/-! ### Data -/

/-- Takes in the byte counters; from the second reading on they give a rate. -/
def observe (r : Reading) : Dashboard × List LogEvent :=
  match d.lastReading with
  | none => ({ d with interfaceName := r.busiest, lastReading := some r }, [])
  | some last =>
    let rates := bitsPerSecond last r
    ({ d with
        rates := rates
        history := d.history.push rates
        interfaceName := r.busiest
        lastReading := some r }, [.throughputSampled rates])

/-- Takes in the load of the machine, if it was measured. -/
def measure (s : Option SystemSample) : Dashboard := { d with system := s.getD d.system }

/-- Looks at the status if it is time to.  A status that cannot be read leaves the latest one. -/
def pollStatus (files : FileTree) (now : Nat) : Dashboard × List LogEvent :=
  match d.poller with
  | none => (d, [])
  | some p =>
    if !p.due now then (d, [])
    else
      let (p, result) := p.poll now files
      let d' := { d with poller := some p }
      match result with
      | .ok s =>
        ({ d' with status := some s },
          if s.reloadRequired && !reloadWarning d.status then [.reloadRequired] else [])
      | .error e => (d', if e.isNotFound then [.statusMissing p.path] else [.pollFailed e])

/-- What an update looks at. -/
structure Surroundings where
  reading : Reading
  sample : Option SystemSample
  files : FileTree
  now : Nat

/-- One update of everything. -/
def update (s : Surroundings) : Dashboard × List LogEvent :=
  let (d, events) := d.observe s.reading
  let (d, events') := (d.measure s.sample).pollStatus s.files s.now
  (d, events ++ events')

/-! ### Steps -/

/-- What can happen to a dashboard. -/
inductive Step
  | key (k : Key)
  | toggle
  | update (s : Surroundings)
  | poll (files : FileTree) (now : Nat)

/-- What a step leaves behind. -/
structure Effect where
  dashboard : Dashboard
  events : List LogEvent
  /-- The session should end. -/
  quit : Bool

/-- One step. -/
def step (d : Dashboard) : Step → Effect
  | .key k => if isQuit k then ⟨d, [], true⟩ else let (d, events) := d.press k; ⟨d, events, false⟩
  | .toggle => let (d, events) := d.toggle; ⟨d, events, false⟩
  | .update s => let (d, events) := d.update s; ⟨d, events, false⟩
  | .poll files now => let (d, events) := d.pollStatus files now; ⟨d, events, false⟩

/-- The dashboard after all steps. -/
def run (d : Dashboard) (steps : List Step) : Dashboard :=
  steps.foldl (fun d s => (d.step s).dashboard) d

end Dashboard

end ShaperDash
