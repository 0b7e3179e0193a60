import ShaperDash.Dashboard
import ShaperDash.Elapsed
import ShaperDash.Pane.Theme

/-!
# The title bar

One line in a block: the name of the program, the busiest interface, the host counts, a badge if the
shaper wants a reload, the session clock and the wall clock.
-/

namespace ShaperDash

/-- The two clocks of the title bar. -/
structure Clocks where
  /-- Seconds since the session began. -/
  elapsed : Nat
  /-- The time of day. -/
  wall : String
  deriving DecidableEq, Repr

namespace TitleBar

def separator : Span := ⟨" \u2502 ", .ofFg Theme.divider⟩

/-- The host counts, if there are any. -/
def hostCounts (status : Option Status) : Span :=
  match status with
  | some s => ⟨s.hostCounts.label ++ " ", .boldFg Theme.counts⟩
  | none => ⟨"hosts: n/a ", .ofFg Theme.faint⟩

/-- The spans in front of the badge. -/
def leading (d : Dashboard) : List Span :=
  [⟨" \u25C8 QOSVIEW ", .boldFg Theme.brand⟩,
   ⟨"Shaper Dashboard", .ofFg Theme.caption⟩,
   separator,
   ⟨d.interfaceName ++ " ", .ofFg Theme.name⟩,
   separator,
   hostCounts d.status]

/-- The badge that asks for a reload. -/
def badge : Span := ⟨" \u26A0 RELOAD REQUIRED ", ⟨some Theme.backdrop, some Theme.alert, true⟩⟩

/-- The spans behind the badge. -/
def trailing (c : Clocks) : List Span :=
  [separator,
   ⟨"\u23F1 " ++ formatElapsed c.elapsed ++ " ", .ofFg Theme.sessionClock⟩,
   ⟨" " ++ c.wall ++ " ", .ofFg Theme.wallClock⟩]

/-- The line of the title bar. -/
def spans (d : Dashboard) (c : Clocks) : List Span :=
  leading d ++ (if reloadWarning d.status then [badge] else []) ++ trailing c

/-- The title bar. -/
def draw (d : Dashboard) (c : Clocks) (r : Region) : Picture :=
  Block.draw Theme.block [] r ++ paragraphLine r.inner (spans d c)

end TitleBar

end ShaperDash
