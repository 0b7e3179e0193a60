import Mathlib.Algebra.Order.Field.Rat
import Mathlib.Tactic.Linarith
import ShaperDash.Proofs.Screen.Pasted

/-!
# The layout tiles the frame

The screen is cut into parts that lie below one another, and some of the parts are cut once more.  A
cut loses no row and no column and gives none to two parts, whatever the sizes are, also where the
frame is too low for the heights that the parts would like to have.

* `Region.Stacked`, `Region.Abreast` : rectangles that fill a frame, from the top to the bottom or
  from the left to the right.
* `Region.Stacked.countP_covers` : such rectangles share out the cells of the frame.
* `Layout.screen_stacked`, `Layout.middle_abreast`, `Region.halves_stacked` : the cuts.
* `Layout.tiles_frame` : **the layout tiles the frame**.
-/

namespace ShaperDash

namespace Region

variable {frame r : Region} {rs : List Region} {x y : Nat}

/-- The first `n` rows of a rectangle. -/
def top (frame : Region) (n : Nat) : Region := ⟨frame.x, frame.y, frame.width, n⟩

/-- What is left of a rectangle below its first `n` rows. -/
def below (frame : Region) (n : Nat) : Region :=
  ⟨frame.x, frame.y + n, frame.width, frame.height - n⟩

/-- The rectangle with rows and columns exchanged. -/
def transpose (r : Region) : Region := ⟨r.y, r.x, r.height, r.width⟩

/-- The rectangles are as wide as the frame and fill it from the top to the bottom, one below the
other. -/
def Stacked (frame : Region) : List Region → Prop
  | [] => frame.height = 0
  | r :: rs =>
    (r = frame.top r.height ∧ r.height ≤ frame.height) ∧
      Stacked (frame.below r.height) rs

/-- The rectangles are as high as the frame and fill it from the left to the right, side by side. -/
def Abreast (frame : Region) (rs : List Region) : Prop :=
  frame.transpose.Stacked (rs.map transpose)

theorem covers_transpose : r.transpose.Covers y x ↔ r.Covers x y := And.comm

/-- The first rows of a rectangle and what is left below share out its cells. -/
theorem covers_top_add_below {n : Nat} (hn : n ≤ frame.height) :
    (if (frame.top n).Covers x y then 1 else 0) + (if (frame.below n).Covers x y then 1 else 0) =
      if frame.Covers x y then 1 else 0 := by
  simp only [Covers, top, below]
  by_cases hy : y < frame.y + n
  · have hbelow : ¬ frame.y + n ≤ y := by omega
    have htop : y < frame.y + frame.height := by omega
    simp [hy, hbelow, htop]
  · have habove : frame.y ≤ y := by omega
    have hend : frame.y + n + (frame.height - n) = frame.y + frame.height := by omega
    simp [hy, habove, hend, Nat.not_lt.1 hy]

/-- Rectangles that fill a frame share out its cells: each lies in just one of them, and cells
outside of the frame lie in none. -/
theorem Stacked.countP_covers (h : frame.Stacked rs) (x y : Nat) :
    rs.countP (fun r => r.Covers x y) = if frame.Covers x y then 1 else 0 := by
  induction rs generalizing frame with
  | nil =>
    have hempty : ¬ frame.Covers x y := by
      rintro ⟨-, hy⟩
      have hheight : frame.height = 0 := h
      omega
    simp [hempty]
  | cons r rs ih =>
    obtain ⟨⟨htop, hle⟩, hrest⟩ := h
    rw [List.countP_cons, ih hrest, Nat.add_comm, ← covers_top_add_below hle, ← htop]
    simp only [decide_eq_true_eq]

theorem Abreast.countP_covers (h : frame.Abreast rs) (x y : Nat) :
    rs.countP (fun r => r.Covers x y) = if frame.Covers x y then 1 else 0 := by
  have hcount := Stacked.countP_covers h y x
  simpa only [List.countP_map, Function.comp_def, covers_transpose] using hcount

/-! ### Halves -/

/-- The halves of a rectangle, one below the other. -/
def halves (r : Region) : List Region := [r.upperHalf, r.lowerHalf]

theorem halves_stacked (r : Region) : r.Stacked r.halves := by
  simp only [halves, Stacked, upperHalf, lowerHalf, top, below, true_and]
  omega

/-- The upper half has the odd row. -/
theorem height_halves : r.upperHalf.height + r.lowerHalf.height = r.height ∧
    r.lowerHalf.height ≤ r.upperHalf.height ∧ r.upperHalf.height ≤ r.lowerHalf.height + 1 := by
  simp only [upperHalf, lowerHalf]
  omega

end Region

namespace Layout

variable {width height : Nat}

/-- The part between the throughput and the status bar, which the system and the hosts share. -/
def middle (width height : Nat) : Region :=
  ⟨0, (heights height).title + (heights height).throughput, width, (heights height).middle⟩

/-- The parts of the screen, from the top. -/
def parts (width height : Nat) : List Region :=
  [Pane.title.region width height, Pane.throughput.region width height, middle width height,
    Pane.statusBar.region width height]

/-- The panes in the middle part, from the left. -/
def sides (width height : Nat) : List Region :=
  [Pane.system.region width height, Pane.hosts.region width height]

theorem screen_stacked (width height : Nat) :
    (Region.ofSize width height).Stacked (parts width height) := by
  have hsum := Pane.heights_sum height
  simp only [parts, Region.Stacked, Pane.region, panes, fifths, middle, Region.ofSize, Region.top,
    Region.below, Region.mk.injEq, true_and, and_true]
  -- what the heights are does not matter, as long as they add up
  generalize heights height = h at hsum ⊢
  omega

theorem middle_abreast (width height : Nat) :
    (middle width height).Abreast (sides width height) := by
  simp only [sides, Region.Abreast, Region.Stacked, List.map, Pane.region, panes, fifths, middle,
    Region.transpose, Region.top, Region.below, Region.mk.injEq, true_and, and_true]
  omega

theorem heights_of_le (h : 24 ≤ height) : heights height = ⟨3, 10, height - 14, 1⟩ := by
  simp only [heights, Heights.mk.injEq]
  omega

/-- The rectangles that something is drawn into, pane by pane. -/
def pieces (width height : Nat) : List Region :=
  Pane.title.region width height :: (Pane.throughput.region width height).halves ++
    Pane.system.region width height :: (Pane.hosts.region width height).halves ++
    [Pane.statusBar.region width height]

/-- What is drawn into the pieces. -/
def drawings (d : Dashboard) (c : Clocks) : List (Region → Picture) :=
  [TitleBar.draw d c,
    Sparkline.draw Sparkline.download d.history.download d.rates.down,
    Sparkline.draw Sparkline.upload d.history.upload d.rates.up,
    SystemPane.draw d,
    HostTable.draw " Top Downloaders " ((d.status.map (·.topDownloaders)).getD []) d.palette,
    HostTable.draw " Worst RTT " ((d.status.map (·.worstRoundTrips)).getD []) d.palette,
    StatusBar.draw d]

theorem draw_eq_pieces (d : Dashboard) (c : Clocks) :
    d.draw c width height =
      (List.zipWith (fun f r => f r) (drawings d c) (pieces width height)).flatten := by
  simp only [Dashboard.draw, Pane.all, Pane.place, Pane.drawIn, ThroughputPane.draw, HostsPane.draw,
    pieces, drawings, Region.halves, List.flatMap_cons, List.flatMap_nil, List.cons_append,
    List.nil_append, List.zipWith_cons_cons, List.zipWith_nil_left, List.flatten_cons,
    List.flatten_nil, List.append_assoc]

/-- The pieces share out the cells of the screen, as all cuts do. -/
theorem countP_pieces (x y : Nat) :
    (pieces width height).countP (fun r => r.Covers x y) =
      if (Region.ofSize width height).Covers x y then 1 else 0 := by
  have hthroughput := (Pane.throughput.region width height).halves_stacked.countP_covers x y
  have hhosts := (Pane.hosts.region width height).halves_stacked.countP_covers x y
  have hsides := (middle_abreast width height).countP_covers x y
  have hparts := (screen_stacked width height).countP_covers x y
  simp only [sides, parts, pieces, List.countP_append, List.countP_cons, List.countP_nil,
    decide_eq_true_eq] at hsides hparts ⊢
  omega

/-- **The layout tiles the frame.**  On a screen of any size

* the title, the throughput, the middle part and the status bar lie below one another and fill the
  screen, each as wide as the screen; from 24 rows on all but the middle part have a fixed height;
* the system and the hosts lie side by side and fill the middle part, two fifths of the width for
  the system and the rest for the hosts, up to half a column;
* the halves of the throughput, and of the hosts, lie below one another and fill their pane, and one
  has at most one row more than the other;
* so every cell of the screen lies in just one of the pieces that are drawn into, and each of them
  is drawn into that very piece. -/
theorem tiles_frame (width height : Nat) :
    let title := Pane.title.region width height
    let throughput := Pane.throughput.region width height
    let middle := middle width height
    let system := Pane.system.region width height
    let hosts := Pane.hosts.region width height
    let statusBar := Pane.statusBar.region width height
    ((Region.ofSize width height).Stacked [title, throughput, middle, statusBar] ∧
      (title.width = width ∧ throughput.width = width ∧ middle.width = width ∧
        statusBar.width = width) ∧
      title.height + throughput.height + middle.height + statusBar.height = height ∧
      (24 ≤ height → title.height = 3 ∧ throughput.height = 10 ∧ middle.height = height - 14 ∧
        statusBar.height = 1)) ∧
    (middle.Abreast [system, hosts] ∧ system.width + hosts.width = width ∧
      |(system.width : ℚ) - 2 * width / 5| ≤ 1 / 2) ∧
    (∀ pane ∈ [throughput, hosts], pane.Stacked [pane.upperHalf, pane.lowerHalf] ∧
      pane.upperHalf.height + pane.lowerHalf.height = pane.height ∧
      pane.lowerHalf.height ≤ pane.upperHalf.height ∧
      pane.upperHalf.height ≤ pane.lowerHalf.height + 1) ∧
    (∀ x y, (pieces width height).countP (fun r => r.Covers x y) =
      if (Region.ofSize width height).Covers x y then 1 else 0) ∧
    ∀ (d : Dashboard) (c : Clocks), d.draw c width height =
      (List.zipWith (fun f r => f r) (drawings d c) (pieces width height)).flatten := by
  intro title throughput middle system hosts statusBar
  have hscreen : (Region.ofSize width height).Stacked [title, throughput, middle, statusBar] :=
    screen_stacked width height
  have hmiddle : middle.Abreast [system, hosts] := middle_abreast width height
  refine ⟨⟨hscreen, ⟨rfl, rfl, rfl, rfl⟩, Pane.heights_sum height, fun h => ?_⟩,
    ⟨hmiddle, ?_, ?_⟩, fun pane _ => ⟨pane.halves_stacked, Region.height_halves⟩,
    countP_pieces, draw_eq_pieces⟩
  · simp only [title, throughput, middle, statusBar, Pane.region, panes, Layout.middle,
      heights_of_le h, and_self]
  · simp only [system, hosts, Pane.region, panes, fifths]
    omega
  · have hwidth : 4 * width ≤ 10 * system.width + 5 ∧ 10 * system.width ≤ 4 * width + 5 := by
      simp only [system, Pane.region, panes, fifths]
      omega
    have hcast : (4 * width : ℚ) ≤ 10 * system.width + 5 ∧
        (10 * system.width : ℚ) ≤ 4 * width + 5 := by
      exact_mod_cast hwidth
    rw [abs_le]
    constructor <;> linarith

/-- An odd number of rows: eleven are left for the middle part, and the upper table of hosts gets
six of them. -/
theorem tiles_odd_rows :
    24 ≤ 25 ∧ (middle 81 25).height = 11 ∧
      (Pane.hosts.region 81 25) ∈ [Pane.throughput.region 81 25, Pane.hosts.region 81 25] ∧
      (Pane.hosts.region 81 25).upperHalf.height = 6 ∧
      (Pane.hosts.region 81 25).upperHalf.height + (Pane.hosts.region 81 25).lowerHalf.height =
        (Pane.hosts.region 81 25).height := by
  obtain ⟨⟨-, -, -, hheights⟩, -, hhalves, -⟩ := tiles_frame 81 25
  obtain ⟨-, -, hmiddle, -⟩ := hheights (by decide)
  have hhosts : Pane.hosts.region 81 25 ∈
      [Pane.throughput.region 81 25, Pane.hosts.region 81 25] := by decide
  obtain ⟨-, hsum, -⟩ := hhalves _ hhosts
  exact ⟨by decide, hmiddle, hhosts, by decide, hsum⟩

/-- Below 24 rows the middle part keeps its ten, and the others get what is left. -/
example :
    pieces 40 13 = [⟨0, 0, 40, 1⟩, ⟨0, 1, 40, 1⟩, ⟨0, 2, 40, 0⟩, ⟨0, 2, 16, 10⟩, ⟨16, 2, 24, 5⟩,
      ⟨16, 7, 24, 5⟩, ⟨0, 12, 40, 1⟩] := by decide

end Layout

end ShaperDash
