import ShaperDash.File.Load

/-!
# Events

What a session writes to its log.  An event knows its level, the part of the program it comes from
and its text, a message followed by named values.  In messages, characters that could steer a
terminal are written as escapes; named values are written as they are.
-/

namespace ShaperDash

/-- How much an event matters; the most important level comes first. -/
inductive Level
  | error
  | warn
  | info
  | debug
  | trace
  deriving DecidableEq, Repr

namespace Level

/-- The place of a level, counted from one; a filter at this place or beyond lets it pass. -/
def rank : Level → Nat
  | error => 1
  | warn => 2
  | info => 3
  | debug => 4
  | trace => 5

def name : Level → String
  | error => "ERROR"
  | warn => "WARN"
  | info => "INFO"
  | debug => "DEBUG"
  | trace => "TRACE"

end Level

/-- What a session writes to its log. -/
inductive LogEvent
  | configRejected (e : LoadError)
  | starting (c : Config)
  | throughputSampled (t : Traffic)
  | reloadRequired
  | statusMissing (path : String)
  | pollFailed (e : LoadError)
  /-- One of the places where keys come from is watched from now on. -/
  | inputWatched (place : Nat)
  | paletteToggled (p : Palette)
  | exiting
  deriving DecidableEq, Repr

namespace LogEvent

def level : LogEvent → Level
  | configRejected _ => .error
  | starting _ => .info
  | throughputSampled _ => .trace
  | reloadRequired => .info
  | statusMissing _ => .debug
  | pollFailed _ => .warn
  | inputWatched _ => .trace
  | paletteToggled _ => .info
  | exiting => .info

/-- The part of the program that an event comes from. -/
def target : LogEvent → String
  | configRejected _ => "qosview"
  | starting _ => "qosview"
  | exiting => "qosview"
  | inputWatched _ => "mio::poll"
  | _ => "qosview::app"

/-- A character of a message; those that could steer a terminal are escaped. -/
def messageChar (c : Char) : List Char :=
  if c = '\x1b' then "\\x1b".toList
  else if c = '\x07' then "\\x07".toList
  else if c = '\x08' then "\\x08".toList
  else if c = '\x0c' then "\\x0c".toList
  else if c = '\x7f' then "\\x7f".toList
  else if 0x80 ≤ c.toNat ∧ c.toNat ≤ 0x9f then codeEscape c
  else [c]

/-- A message as it is written. -/
def guarded (s : String) : String := String.ofList (s.toList.flatMap messageChar)

/-- The message of an event. -/
def message : LogEvent → String
  | configRejected e => e.message ++ "; using default configuration"
  | starting _ => "starting"
  | throughputSampled _ => "throughput sample"
  | reloadRequired => "shaper reports a reload is required"
  | statusMissing _ => "status file not present yet"
  | pollFailed e => "status poll failed, keeping last status: " ++ e.message
  | inputWatched place =>
    "registering event source with poller: token=Token(" ++ toString place ++
      "), interests=READABLE"
  | paletteToggled _ => "palette toggled"
  | exiting => "exiting"

/-- The named values of an event that are written behind its message. -/
def values : LogEvent → List (String × String)
  | starting c => [("config", c.describe)]
  | throughputSampled t => [("down", toString t.down), ("up", toString t.up)]
  | statusMissing path => [("path", path)]
  | paletteToggled p => [("palette", p.name)]
  | _ => []

/-- The names of all that an event carries; a filter can ask for them. -/
def fields : LogEvent → List String
  | inputWatched _ =>
    ["message", "log.target", "log.module_path", "log.file", "log.line"]
  | e => "message" :: e.values.map (·.1)

/-- The message of an event and its named values. -/
def text (e : LogEvent) : String :=
  guarded e.message ++ String.join (e.values.map fun (name, value) => " " ++ name ++ "=" ++ value)

/-- The events that go with waiting for keys for the first time. -/
def keysWatched : List LogEvent := [.inputWatched 0, .inputWatched 1]

/-- The line of an event that happens at the time `stamp`, with its line end. -/
def line (stamp : String) (e : LogEvent) : String :=
  let name := e.level.name
  stamp ++ " " ++ String.ofList (List.replicate (5 - name.length) ' ') ++ name ++ " " ++ e.text ++
    "\n"

end LogEvent

end ShaperDash
