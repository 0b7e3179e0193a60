import ShaperDash.Pane.Hosts
import ShaperDash.Pane.Layout
import ShaperDash.Pane.StatusBar
import ShaperDash.Pane.System
import ShaperDash.Pane.Throughput
import ShaperDash.Pane.Title

/-!
# The screen

The dashboard on the screen is its panes, each drawn into a rectangle of its own.
-/

namespace ShaperDash

/-- A part of the screen that can be drawn on its own. -/
inductive Pane
  | title
  | throughput
  | system
  | hosts
  | statusBar
  deriving DecidableEq, Repr

namespace Pane

/-- All panes, in the order in which they are drawn. -/
def all : List Pane := [title, throughput, system, hosts, statusBar]

/-- Draws a pane into a rectangle of a screen. -/
def drawIn (p : Pane) (d : Dashboard) (c : Clocks) (r : Region) : Picture :=
  match p with
  | title => TitleBar.draw d c r
  | throughput => ThroughputPane.draw d r
  | system => SystemPane.draw d r
  | hosts => HostsPane.draw d r
  | statusBar => StatusBar.draw d r

/-- Draws a pane on a screen of its own. -/
def draw (p : Pane) (d : Dashboard) (c : Clocks) (width height : Nat) : Picture :=
  p.drawIn d c (.ofSize width height)

/-- The rectangle of a pane on a screen. -/
def region (p : Pane) (width height : Nat) : Region :=
  let panes := Layout.panes width height
  match p with
  | title => panes.title
  | throughput => panes.throughput
  | system => panes.system
  | hosts => panes.hosts
  | statusBar => panes.statusBar

/-- Draws a pane at its place on a screen. -/
def place (p : Pane) (d : Dashboard) (c : Clocks) (width height : Nat) : Picture :=
  p.drawIn d c (p.region width height)

end Pane

/-- Draws the whole dashboard. -/
def Dashboard.draw (d : Dashboard) (c : Clocks) (width height : Nat) : Picture :=
  Pane.all.flatMap fun p => p.place d c width height

end ShaperDash
