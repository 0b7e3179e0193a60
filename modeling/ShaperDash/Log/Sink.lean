import ShaperDash.Log.Filter

/-!
# The log file

The log is a file that grows at its end.  Where it cannot be opened, because a file or a directory
is in the way, there is no log and nothing else changes.
-/

namespace ShaperDash

/-- An open log: where it is, what passes into it, and the time that stands on its lines. -/
structure LogSink where
  route : Route
  filter : Filter
  stamp : String

namespace FileTree

variable (t : FileTree)

/-- No file is in the way of directories along the route. -/
def clear (r : Route) : Bool :=
  (List.range (r.length + 1)).all fun n =>
    match t.entry? (r.take n) with
    | some (.file _) => false
    | _ => true

/-- The tree in which the log at a route can be written to, if it can be opened. -/
def openLog (r : Route) : Option FileTree :=
  if !t.clear r.dropLast then none
  else
    let t := t.makeDirectories r.dropLast
    match t.entry? r with
    | some .directory => none
    | some (.file _) => some t
    | none => some (t.writeFile r .empty)

/-- Adds text at the end of a file. -/
def append (r : Route) (text : String) : FileTree :=
  match t.entry? r with
  | some (.file bytes) => t.writeFile r (bytes ++ text.toUTF8)
  | _ => t

/-- Writes those events into the log that pass its filter. -/
def record (sink : Option LogSink) (events : List LogEvent) : FileTree :=
  match sink with
  | none => t
  | some s =>
    t.append s.route (String.join ((events.filter s.filter.passes).map (LogEvent.line s.stamp)))

end FileTree

end ShaperDash
