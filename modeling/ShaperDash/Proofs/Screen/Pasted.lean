import ShaperDash.Pane
import ShaperDash.Proofs.Screen.Local

/-!
# The dashboard is its panes, pasted together

Every pane is made of blocks, lines of text, fills and bars, and is local because these are.  The
rectangles of the panes have no cell in common, so that no pane can change what another one shows:
**each cell of the dashboard is the cell of one pane, drawn alone on a screen of the size of its
rectangle** (`dashboard_of_panes`).

* `HostTable.draw_local`, `Sparkline.draw_local`, `SystemPane.draw_local` : panes are local, also
  where they have no room left.
* `Pane.existsUnique_covers` : every cell of the screen lies in the rectangle of just one pane.
-/

namespace ShaperDash

open Picture

/-! ### Tables -/

namespace HostTable

/-- The columns fill the width if there is room for the blanks between them, and are empty
otherwise. -/
theorem columns_inside {r q : Region} (hq : q ∈ columns r) : q.Inside r := by
  simp only [columns, widths, places, List.zip_cons_cons, List.zip_nil_left, List.map_cons,
    List.map_nil, List.mem_cons, List.not_mem_nil, or_false] at hq
  rcases hq with rfl | rfl | rfl | rfl <;>
  · intro x y h
    simp only [Region.Covers] at h ⊢
    omega

theorem columns_shift (r : Region) (dx dy : Nat) :
    columns (r.shift dx dy) = (columns r).map fun q => q.shift dx dy := by
  simp [columns, widths, places, Region.shift, Nat.add_right_comm]

theorem drawCell_local (c : Content) : Local fun r => drawCell r c := by
  refine (fill_local c.style).append ?_
  split_ifs
  · exact .empty
  · exact writeLine_local _

theorem drawCells_local (cells : List Content) : Local fun r => drawCells r cells := by
  refine .parts (f := fun c q => drawCell q c) drawCell_local ?_ ?_
  · rintro r ⟨q, c⟩ hp
    exact columns_inside (List.of_mem_zip hp).1
  · intro r dx dy
    rw [columns_shift, List.zip_map_left]
    rfl

theorem header_local : Local header :=
  (fill_local headerStyle).append (drawCells_local _)

theorem row_local (palette : Palette) (h : HostStats) : Local (row h palette) :=
  drawCells_local _

theorem rows_local (hosts : List HostStats) (palette : Palette) : Local (rows hosts palette) :=
  .numbered (f := fun h r => row h palette r) (l := fun r => hosts.take (r.height - 1))
    (q := fun r i => r.row (1 + i)) (row_local palette)
    (fun r i hi => Region.row_inside (by
      rw [List.length_take] at hi
      omega))
    (fun _ _ _ => rfl) (fun _ _ _ _ => Region.row_shift ..)

/-- The header has a row of its own, as the rows are drawn only if there is one. -/
theorem draw_local (title : String) (hosts : List HostStats) (palette : Palette) :
    Local (draw title hosts palette) := by
  have hbody : Local fun r : Region =>
      if r.width = 0 ∨ r.height = 0 then [] else header (r.row 0) ++ rows hosts palette r :=
    .of_nonempty
      (fun r _ hh => ((header_local.within (r.row 0)).mono (Region.row_inside hh)).append
        ((rows_local hosts palette).within r))
      (fun r dx dy => by
        rw [Region.row_shift, header_local.shift, (rows_local hosts palette).shift, shift_append])
  exact (Block.draw_local _ _).append hbody.inside

end HostTable

/-! ### Sparklines -/

namespace Sparkline

theorem bar_within (color : Rgb) {r : Region} (hw : 0 < r.width) (n : Nat) :
    Within r (bar color r n) :=
  .map fun k hk => by
    have hk := List.mem_range.1 hk
    simp only [Region.Covers]
    omega

theorem bar_shift (color : Rgb) (r : Region) (n dx dy : Nat) :
    bar color (r.shift dx dy) n = (bar color r n).shift dx dy := by
  simp [bar, Picture.shift, Region.shift, Nat.add_right_comm]

theorem bars_local (style : SparklineStyle) (rates : List UInt64) : Local (bars style rates) where
  within r := .flatMap fun ⟨rate, i⟩ h => by
    have hi : i < r.width := by
      have hi := List.snd_lt_of_mem_zipIdx h
      simp only [shown, List.length_take] at hi
      omega
    exact (bar_within style.bar (r := r.column i) Nat.one_pos _).mono (Region.column_inside hi)
  shift r dx dy := by
    rw [bars, bars, shift_flatMap]
    refine List.flatMap_congr fun ⟨rate, i⟩ _ => ?_
    rw [← bar_shift, ← Region.column_shift]
    rfl

theorem draw_local (style : SparklineStyle) (rates : List UInt64) (now : UInt64) :
    Local (draw style rates now) :=
  (Block.draw_local _ _).append (bars_local style rates).inside

end Sparkline

/-! ### Panes -/

/-- Something in each half of the rectangle. -/
theorem Local.halves {f g : Region → Picture} (hf : Local f) (hg : Local g) :
    Local fun r => f r.upperHalf ++ g r.lowerHalf :=
  (hf.part (fun _ => Region.upperHalf_inside) fun _ _ _ => Region.upperHalf_shift ..).append
    (hg.part (fun _ => Region.lowerHalf_inside) fun _ _ _ => Region.lowerHalf_shift ..)

theorem TitleBar.draw_local (d : Dashboard) (c : Clocks) : Local (TitleBar.draw d c) :=
  (Block.draw_local _ _).append (paragraphLine_local _).inside

theorem ThroughputPane.draw_local (d : Dashboard) : Local (ThroughputPane.draw d) :=
  (Sparkline.draw_local ..).halves (Sparkline.draw_local ..)

theorem SystemPane.draw_local (d : Dashboard) : Local (SystemPane.draw d) :=
  (Block.draw_local _ _).append
    (.numbered (f := fun line r => paragraphLine r line)
      (l := fun r => (lines d.system (gaugeWidth r.width) d.palette).take r.inner.height)
      (q := fun r i => r.inner.row i) paragraphLine_local
      (fun r i hi => (Region.row_inside (by
        rw [List.length_take] at hi
        omega)).trans Region.inner_inside)
      (fun _ _ _ => rfl) (fun _ _ _ _ => by rw [Region.inner_shift, Region.row_shift]))

theorem HostsPane.draw_local (d : Dashboard) : Local (HostsPane.draw d) :=
  (HostTable.draw_local ..).halves (HostTable.draw_local ..)

theorem StatusBar.draw_local (d : Dashboard) : Local (StatusBar.draw d) :=
  (fill_local _).append (paragraphLine_local _)

namespace Pane

theorem drawIn_local (p : Pane) (d : Dashboard) (c : Clocks) : Local (p.drawIn d c) := by
  cases p with
  | title => exact TitleBar.draw_local d c
  | throughput => exact ThroughputPane.draw_local d
  | system => exact SystemPane.draw_local d
  | hosts => exact HostsPane.draw_local d
  | statusBar => exact StatusBar.draw_local d

/-! ### The screen -/

/-- No two panes overlap, whatever the heights of the parts are. -/
theorem region_disjoint {p q : Pane} (hpq : p ≠ q) {width height x y : Nat}
    (hp : (p.region width height).Covers x y) : ¬ (q.region width height).Covers x y := by
  cases p <;> cases q <;> try exact absurd rfl hpq
  all_goals
    simp only [region, Layout.panes, Layout.fifths, Region.Covers] at hp ⊢
    omega

theorem heights_sum (height : Nat) :
    (Layout.heights height).title + (Layout.heights height).throughput +
      (Layout.heights height).middle + (Layout.heights height).statusBar = height := by
  simp only [Layout.heights]
  omega

/-- The panes share out the screen. -/
theorem existsUnique_covers {width height x y : Nat} (hx : x < width) (hy : y < height) :
    ∃! p : Pane, (p.region width height).Covers x y := by
  have hsum := heights_sum height
  have hsome : ∃ p : Pane, (p.region width height).Covers x y := by
    simp only [region, Layout.panes, Layout.fifths, Region.Covers]
    generalize Layout.heights height = h at hsum ⊢
    by_cases htitle : y < h.title
    · exact ⟨.title, by dsimp only; omega⟩
    by_cases hthroughput : y < h.title + h.throughput
    · exact ⟨.throughput, by dsimp only; omega⟩
    by_cases hmiddle : y < h.title + h.throughput + h.middle
    · by_cases hleft : x < (4 * width + 5) / 10
      · exact ⟨.system, by dsimp only; omega⟩
      · exact ⟨.hosts, by dsimp only; omega⟩
    · exact ⟨.statusBar, by dsimp only; omega⟩
  obtain ⟨p, hp⟩ := hsome
  refine ⟨p, hp, fun q hq => ?_⟩
  by_contra hqp
  exact region_disjoint hqp hq hp

theorem marks_place_eq_nil {p q : Pane} (hpq : q ≠ p) (d : Dashboard) (c : Clocks)
    {width height x y : Nat} (h : (p.region width height).Covers x y) :
    (q.place d c width height).marks x y = [] :=
  ((q.drawIn_local d c).within _).marks_eq_nil (region_disjoint hpq.symm h)

/-- In the rectangle of a pane, the screen shows what that pane draws. -/
theorem cell_draw (p : Pane) (d : Dashboard) (c : Clocks) {width height x y : Nat}
    (h : (p.region width height).Covers x y) :
    (d.draw c width height).cell x y = (p.place d c width height).cell x y := by
  have hmarks : (d.draw c width height).marks x y = (p.place d c width height).marks x y := by
    have hother : ∀ q : Pane, q ≠ p → (q.place d c width height).marks x y = [] :=
      fun q hq => marks_place_eq_nil hq d c h
    simp only [Dashboard.draw, all, List.flatMap_cons, List.flatMap_nil, marks_append]
    cases p <;> simp [hother]
  rw [cell, hmarks, cell]

end Pane

/-- **The dashboard is its panes, pasted together**: each cell in the rectangle of a pane is the
cell of that pane drawn alone when the clocks show the same, and no pane draws on a cell outside of
its rectangle. -/
theorem dashboard_of_panes (d : Dashboard) (c : Clocks) (width height : Nat) (p : Pane) :
    (∀ (x : Fin (p.region width height).width) (y : Fin (p.region width height).height),
      (d.draw c width height).cell ((p.region width height).x + x) ((p.region width height).y + y) =
        (p.draw d c (p.region width height).width (p.region width height).height).cell x y) ∧
    (∀ s ∈ p.place d c width height, (p.region width height).Covers s.x s.y) ∧
    (∀ s ∈ p.draw d c width height, s.x < width ∧ s.y < height) := by
  have hlocal := p.drawIn_local d c
  refine ⟨fun x y => ?_, hlocal.within _, fun s hs => ?_⟩
  · have hx := x.isLt
    have hy := y.isLt
    have hcovers : (p.region width height).Covers
        ((p.region width height).x + x) ((p.region width height).y + y) := by
      simp only [Region.Covers]
      omega
    rw [p.cell_draw d c hcovers, Pane.place, hlocal.cell_eq, Pane.draw]
  · have hcovers := hlocal.within _ s hs
    simp only [Region.Covers, Region.ofSize] at hcovers
    omega

end ShaperDash
