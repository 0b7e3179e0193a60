import ShaperDash.File.Load

/-!
# Looking at the status now and then

A `Poller` reads the status file at most once per interval.  A read that fails counts as a read.
-/

namespace ShaperDash

/-- Reads a status file, but not more often than the interval allows. -/
structure Poller where
  path : String
  /-- Nanoseconds between two reads. -/
  interval : Nat
  /-- The instant of the latest read. -/
  lastPoll : Option Nat
  deriving DecidableEq, Repr

namespace Poller

/-- A poller that has not read yet. -/
def ofPath (path : String) (interval : Nat) : Poller := ⟨path, interval, none⟩

variable (p : Poller)

/-- Enough time has passed since the latest read; a clock that steps back shows no time. -/
def due (now : Nat) : Bool :=
  match p.lastPoll with
  | none => true
  | some last => p.interval ≤ now - last

/-- Reads the file and marks the instant. -/
def poll (now : Nat) (files : FileTree) : Poller × Except LoadError Status :=
  ({ p with lastPoll := some now }, files.readStatus p.path)

end Poller

end ShaperDash
