import ShaperDash.Screen.Picture

/-!
# Layout

How the screen is divided into panes.  The title, the throughput, a middle part and the status bar
lie below one another; the system and the hosts share the middle part side by side.
-/

namespace ShaperDash

namespace Layout

/-- Two fifths and three fifths of a width, rounded to whole columns. -/
def fifths (width : Nat) : Nat × Nat := ((4 * width + 5) / 10, width - (4 * width + 5) / 10)

/-- The heights of the parts, from the top. -/
structure Heights where
  title : Nat
  throughput : Nat
  middle : Nat
  statusBar : Nat
  deriving DecidableEq, Repr

/-- The middle part gets ten rows first, then the status bar its row; rows beyond that go to the
title and the throughput by turns until they have three and ten, and then to the middle part. -/
def heights (height : Nat) : Heights :=
  let spare := height - 11
  let title := min 3 ((spare + 1) / 2)
  let throughput := min 10 (spare - title)
  let statusBar := min 1 (height - 10)
  ⟨title, throughput, height - title - throughput - statusBar, statusBar⟩

/-- The rectangles of the panes. -/
structure Panes where
  title : Region
  throughput : Region
  system : Region
  hosts : Region
  statusBar : Region
  deriving DecidableEq, Repr

/-- The panes of a screen. -/
def panes (width height : Nat) : Panes :=
  let h := heights height
  let (left, right) := fifths width
  let middle := h.title + h.throughput
  { title := ⟨0, 0, width, h.title⟩
    throughput := ⟨0, h.title, width, h.throughput⟩
    system := ⟨0, middle, left, h.middle⟩
    hosts := ⟨left, middle, right, h.middle⟩
    statusBar := ⟨0, middle + h.middle, width, h.statusBar⟩ }

end Layout

end ShaperDash
