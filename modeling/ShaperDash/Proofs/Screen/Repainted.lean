import ShaperDash.Proofs.Dashboard.Keys
import ShaperDash.Proofs.Pane.Lines
import ShaperDash.Proofs.Screen.Pasted

/-!
# A toggle changes colors only

The palette colors scores: the gauges of the system pane and the round trips of the host tables.
Everything else is drawn the same with either palette, and these are drawn in the same cells with
the same texts.  So the screens of a dashboard before and after a toggle show the same but for the
colors of the scores, and for the status bar, which names the palette
(`Dashboard.toggle_only_recolours`).

* `SystemPane.gauges`, `HostTable.roundTrips` : the rectangles of the scores.
* `SystemPane.draw_painted`, `HostTable.draw_painted` : without the colors in these rectangles, a
  pane is the same picture with either palette.
-/

namespace ShaperDash

open Picture

/-! ### Gauges -/

namespace SystemPane

/-- The rectangle of the gauge in a line: its bar and seven cells for the percentage, as far as they
are inside. -/
def gauge (r : Region) (i : Nat) : Region :=
  ⟨r.inner.x + (label i).length, r.inner.y + i,
    min (gaugeWidth r.width + 7) (r.inner.width - (label i).length), 1⟩

/-- The rectangles of all gauges that there is a row for. -/
def gauges (s : SystemSample) (r : Region) : List Region :=
  (List.range (min (s.cpu.length + 1) r.inner.height)).map (gauge r)

/-- A line is the same picture with either palette, but for the colors of its gauge. -/
theorem line_painted {r : Region} {rs : List Region} {i : Nat} (hr : gauge r i ∈ rs) (style : Style)
    (percent : Datum) (after : List Span) (p p' : Palette) :
    let line (palette : Palette) :=
      [⟨label i, style⟩] ++ Gauge.spans percent (gaugeWidth r.width) palette ++ after
    Picture.colorless (paragraphLine (r.inner.row i) (line p)) rs =
      Picture.colorless (paragraphLine (r.inner.row i) (line p')) rs := by
  have hlabel : ∀ s ∈ [(⟨label i, style⟩ : Span)], SimpleText s.text := by
    simpa using simple_label i
  have hlength : (styledClusters [(⟨label i, style⟩ : Span)]).length = (label i).length := by
    rw [styledClusters_of_simple hlabel]
    simp [String.length_toList]
  have hwidth : gaugeWidth r.width ≤ Nat.pow 2 52 :=
    Nat.le_trans (Nat.min_le_left ..) (by decide)
  refine colorless_paragraphLine hlabel (Gauge.simple_spans percent _ p)
    (Gauge.simple_spans percent _ p') (Gauge.colorless_spans percent _ p p') hr ?_
  rw [hlength, Gauge.length_spans percent _ p hwidth]
  rfl

/-- The lines that there is room for are the same picture with either palette. -/
theorem lines_painted (s : SystemSample) (p p' : Palette) {r : Region} {rs : List Region}
    (hr : ∀ q ∈ gauges s r, q ∈ rs) :
    let shown (palette : Palette) := (lines s (gaugeWidth r.width) palette).take r.inner.height
    Picture.colorless
        ((shown p).zipIdx.flatMap fun x => paragraphLine (r.inner.row x.2) x.1) rs =
      Picture.colorless
        ((shown p').zipIdx.flatMap fun x => paragraphLine (r.inner.row x.2) x.1) rs := by
  intro shown
  have hlength : ∀ palette, (shown palette).length = min (s.cpu.length + 1) r.inner.height := by
    intro palette
    rw [List.length_take, length_lines, length_percents, Nat.min_comm]
  refine colorless_numbered (f := fun line i => paragraphLine (r.inner.row i) line)
    ((hlength p).trans (hlength p').symm) fun i hi hi' => ?_
  have hrow : i < min (s.cpu.length + 1) r.inner.height := hi.trans_eq (hlength p)
  have hpercent : i < (percents s).length := by
    rw [length_percents]
    omega
  obtain ⟨style, after, hline⟩ := exists_line s (gaugeWidth r.width) i hpercent
  rw [List.getElem_take, List.getElem_take, hline, hline]
  exact line_painted (hr _ (List.mem_map_of_mem (List.mem_range.2 hrow))) ..

/-- The system pane is the same picture with either palette, but for the colors of its gauges. -/
theorem draw_painted (d : Dashboard) (p : Palette) (name : String) {r : Region} {rs : List Region}
    (hr : ∀ q ∈ gauges d.system r, q ∈ rs) :
    (draw (d.painted p name) r).colorless rs = (draw d r).colorless rs := by
  simp only [draw, colorless_append]
  exact congrArg _ (lines_painted d.system p d.palette hr)

end SystemPane

/-! ### Round trips -/

namespace HostTable

/-- The last column of the row of each host that there is a row for. -/
def roundTrips (hosts : List HostStats) (r : Region) : List Region :=
  (List.range (min hosts.length (r.inner.height - 1))).filterMap fun i =>
    (columns (r.inner.row (1 + i))).getLast?

theorem cell_painted {r : Region} {rs : List Region} (hr : r ∈ rs) (text : String) (c c' : Rgb) :
    (drawCell r ⟨text, .ofFg c⟩).colorless rs = (drawCell r ⟨text, .ofFg c'⟩).colorless rs := by
  simp only [drawCell, colorless_append]
  congr 1
  exact colorless_fill hr rfl

/-- A row is the same picture with either palette, but for the color of its last column. -/
theorem row_painted (h : HostStats) (p p' : Palette) {r : Region} {rs : List Region}
    (hr : ∀ q ∈ (columns r).getLast?, q ∈ rs) :
    (row h p r).colorless rs = (row h p' r).colorless rs := by
  obtain ⟨host, down, up, roundTrip, hcolumns⟩ : ∃ host down up roundTrip,
      columns r = [host, down, up, roundTrip] := ⟨_, _, _, _, rfl⟩
  have hmem : roundTrip ∈ rs := hr roundTrip (by simp [hcolumns])
  simp only [row, drawCells, hostCells, hcolumns, List.zip_cons_cons, List.zip_nil_left,
    List.flatMap_cons, List.flatMap_nil, List.append_nil, colorless_append]
  rw [cell_painted hmem]

/-- A table is the same picture with either palette, but for the colors of the round trips. -/
theorem draw_painted (title : String) (hosts : List HostStats) (p p' : Palette) {r : Region}
    {rs : List Region} (hr : ∀ q ∈ roundTrips hosts r, q ∈ rs) :
    (draw title hosts p r).colorless rs = (draw title hosts p' r).colorless rs := by
  have hrows : (rows hosts p r.inner).colorless rs = (rows hosts p' r.inner).colorless rs := by
    refine colorless_flatMap_congr fun ⟨h, i⟩ hmem => row_painted h p p' fun q hq => hr q ?_
    have hi : i < min hosts.length (r.inner.height - 1) := by
      have := List.snd_lt_of_mem_zipIdx hmem
      simp only [List.length_take] at this
      omega
    exact List.mem_filterMap.2 ⟨i, List.mem_range.2 hi, hq⟩
  simp only [draw, colorless_append]
  split_ifs
  · rfl
  · rw [colorless_append, colorless_append, hrows]

end HostTable

/-- The hosts pane is the same picture with either palette, but for the colors of the round
trips. -/
theorem HostsPane.draw_painted (d : Dashboard) (p : Palette) (name : String) {r : Region}
    {rs : List Region}
    (htop : ∀ q ∈ HostTable.roundTrips ((d.status.map (·.topDownloaders)).getD []) r.upperHalf,
      q ∈ rs)
    (hworst : ∀ q ∈ HostTable.roundTrips ((d.status.map (·.worstRoundTrips)).getD []) r.lowerHalf,
      q ∈ rs) :
    (draw (d.painted p name) r).colorless rs = (draw d r).colorless rs := by
  have hupper := HostTable.draw_painted " Top Downloaders " _ p d.palette htop
  have hlower := HostTable.draw_painted " Worst RTT " _ p d.palette hworst
  simp only [draw, colorless_append]
  rw [← hupper, ← hlower]
  rfl

/-! ### The screen -/

namespace Dashboard

variable (d : Dashboard) (width height : Nat)

/-- The rectangles of the screen that show scores: the gauges, and the round trips of both
tables. -/
def scores : List Region :=
  let hosts := Pane.hosts.region width height
  let top := (d.status.map (·.topDownloaders)).getD []
  let worst := (d.status.map (·.worstRoundTrips)).getD []
  SystemPane.gauges d.system (Pane.system.region width height) ++
    (HostTable.roundTrips top hosts.upperHalf ++ HostTable.roundTrips worst hosts.lowerHalf)

/-- A pane other than the status bar is the same picture with either palette, but for the colors of
the scores. -/
theorem place_painted (c : Clocks) {pane : Pane} (hpane : pane ≠ .statusBar) (p : Palette)
    (name : String) :
    (pane.place (d.painted p name) c width height).colorless (d.scores width height) =
      (pane.place d c width height).colorless (d.scores width height) := by
  cases pane with
  | title => rfl
  | throughput => rfl
  | system => exact SystemPane.draw_painted d p name fun q hq => List.mem_append_left _ hq
  | hosts =>
    exact HostsPane.draw_painted d p name
      (fun q hq => List.mem_append_right _ (List.mem_append_left _ hq))
      (fun q hq => List.mem_append_right _ (List.mem_append_right _ hq))
  | statusBar => exact absurd rfl hpane

/-- A pane other than the status bar does not name the palette. -/
theorem place_renamed (c : Clocks) {pane : Pane} (hpane : pane ≠ .statusBar) (name : String) :
    pane.place (d.painted d.palette name) c width height = pane.place d c width height := by
  cases pane with
  | title => rfl
  | throughput => rfl
  | system => rfl
  | hosts => rfl
  | statusBar => exact absurd rfl hpane

/-- The panes other than the status bar. -/
def upperPanes : List Pane := [.title, .throughput, .system, .hosts]

theorem ne_statusBar_of_mem {pane : Pane} (h : pane ∈ upperPanes) : pane ≠ .statusBar := by
  rintro rfl
  exact absurd h (by decide)

/-- Outside of its rectangle the status bar shows nothing. -/
theorem cell_upperPanes (c : Clocks) {x y : Nat}
    (hout : ¬ (Pane.statusBar.region width height).Covers x y) :
    (d.draw c width height).cell x y =
      Picture.cell (upperPanes.flatMap fun pane => pane.place d c width height) x y := by
  have hbar : (Pane.statusBar.place d c width height).marks x y = [] :=
    ((StatusBar.draw_local d).within _).marks_eq_nil hout
  have hdraw : d.draw c width height =
      (upperPanes.flatMap fun pane => pane.place d c width height) ++
        Pane.statusBar.place d c width height := by
    simp [draw, Pane.all, upperPanes]
  rw [hdraw, cell, marks_append, hbar, List.append_nil, cell]

/-- Outside of the status bar, a dashboard shows the same with either palette but for the colors of
the scores. -/
theorem cell_painted (c : Clocks) (p : Palette) (name : String) {x y : Nat}
    (hout : ¬ (Pane.statusBar.region width height).Covers x y) :
    (((d.painted p name).draw c width height).cell x y).colorless =
        ((d.draw c width height).cell x y).colorless ∧
      ((∀ r ∈ d.scores width height, ¬ r.Covers x y) →
        ((d.painted p name).draw c width height).cell x y = (d.draw c width height).cell x y) := by
  rw [cell_upperPanes _ _ _ c hout, cell_upperPanes d _ _ c hout]
  refine cell_of_colorless_eq (colorless_flatMap_congr fun pane hpane => ?_) x y
  exact place_painted d width height c (ne_statusBar_of_mem hpane) p name

/-- Outside of the status bar, a dashboard shows the same whatever the palette is called. -/
theorem cell_renamed (c : Clocks) (name : String) {x y : Nat}
    (hout : ¬ (Pane.statusBar.region width height).Covers x y) :
    ((d.painted d.palette name).draw c width height).cell x y =
      (d.draw c width height).cell x y := by
  have hpanes : (upperPanes.flatMap fun pane =>
      pane.place (d.painted d.palette name) c width height) =
        upperPanes.flatMap fun pane => pane.place d c width height :=
    List.flatMap_congr fun pane hpane =>
      place_renamed d width height c (ne_statusBar_of_mem hpane) name
  rw [cell_upperPanes _ _ _ c hout, cell_upperPanes d _ _ c hout, hpanes]

/-! ### Toggles -/

theorem toggle_toggle : d.toggle.1.toggle.1 = d.painted d.palette d.palette.other.label := by
  simp [toggle, Palette.toggle, painted, Palette.other_other]

/-- **A toggle changes colors only.**  On a screen of any size, and with the same clocks,

* every cell outside of the status bar has the same symbol, the same background and the same weight
  before and after a toggle, and the same color as well if it does not belong to a score;
* after two toggles these cells are what they were, and the whole screen is if the status bar named
  the other palette before, as it does in every session. -/
theorem toggle_only_recolours (d : Dashboard) (c : Clocks) (width height : Nat) :
    (∀ x y, ¬ (Pane.statusBar.region width height).Covers x y →
      let before := (d.draw c width height).cell x y
      let after := (d.toggle.1.draw c width height).cell x y
      (after.symbol = before.symbol ∧ after.bg = before.bg ∧ after.bold = before.bold) ∧
        ((∀ r ∈ d.scores width height, ¬ r.Covers x y) → after.fg = before.fg) ∧
        (d.toggle.1.toggle.1.draw c width height).cell x y = before) ∧
    (d.paletteLabel = d.palette.other.label →
      d.toggle.1.toggle.1.draw c width height = d.draw c width height) ∧
    ∀ (settings : Config) (steps : List Step), d = (start settings).run steps →
      d.toggle.1.toggle.1.draw c width height = d.draw c width height := by
  have htwice : d.paletteLabel = d.palette.other.label →
      d.toggle.1.toggle.1.draw c width height = d.draw c width height := by
    intro hlabel
    rw [toggle_toggle, ← hlabel]
    rfl
  refine ⟨fun x y hout => ?_, htwice, ?_⟩
  · intro before after
    obtain ⟨hcolorless, hcell⟩ : after.colorless = before.colorless ∧ _ :=
      cell_painted d width height c d.palette.toggle.1 d.palette.toggle.2 hout
    have hlook :
        after.symbol = before.symbol ∧ after.bg = before.bg ∧ after.bold = before.bold := by
      simpa [Cell.colorless] using hcolorless
    refine ⟨hlook, fun hscores => congrArg Cell.fg (hcell hscores), ?_⟩
    rw [toggle_toggle]
    exact cell_renamed d width height c _ hout
  · rintro settings steps rfl
    exact htwice (paletteLabel_run rfl steps)

/-- Three fifths of the memory are in use, which is little for one palette and much for the other:
the gauge changes its color, and the label in front of it does not. -/
theorem toggle_recolours_memory :
    let settings : Config := ⟨1000, .regular, none, 10, 3⟩
    let steps : List Step :=
      [.update ⟨⟨0, 0, "eth0", 0⟩, some ⟨[], 60, 100⟩, .ofWorkingDirectory [], 0⟩]
    let d := (start settings).run steps
    let clocks : Clocks := ⟨0, "12:00:00"⟩
    let before := (d.draw clocks 60 14).cell
    let after := (d.toggle.1.draw clocks 60 14).cell
    (¬ (Pane.statusBar.region 60 14).Covers 8 4 ∧ d.scores 60 14 = [⟨8, 4, 11, 1⟩] ∧
      before 8 4 = ⟨['█'], .rgb ⟨0xaa, 0xff, 0xaa⟩, .rgb Theme.backdrop, false⟩ ∧
      (after 8 4).fg = .rgb ⟨0xbf, 0x3d, 0x5e⟩ ∧
      (after 8 4).symbol = ['█'] ∧ (after 8 4).bg = .rgb Theme.backdrop) ∧
    (¬ (Pane.statusBar.region 60 14).Covers 3 4 ∧ (∀ r ∈ d.scores 60 14, ¬ r.Covers 3 4) ∧
      (after 3 4).fg = (before 3 4).fg) ∧
    d.paletteLabel = d.palette.other.label ∧
    d.toggle.1.toggle.1.draw clocks 60 14 = d.draw clocks 60 14 := by
  intro settings steps d clocks before after
  obtain ⟨hcells, -, htwice⟩ := toggle_only_recolours d clocks 60 14
  have hgauge : ¬ (Pane.statusBar.region 60 14).Covers 8 4 := by decide
  have hlabel : ¬ (Pane.statusBar.region 60 14).Covers 3 4 := by decide
  have hscores : d.scores 60 14 = [⟨8, 4, 11, 1⟩] := by decide +kernel
  have hout : ∀ r ∈ d.scores 60 14, ¬ r.Covers 3 4 := by
    rw [hscores]
    decide
  have hbefore : before 8 4 =
      ⟨['█'], .rgb ⟨0xaa, 0xff, 0xaa⟩, .rgb Theme.backdrop, false⟩ := by decide +kernel
  have hafter : (after 8 4).fg = .rgb ⟨0xbf, 0x3d, 0x5e⟩ := by decide +kernel
  obtain ⟨⟨hsymbol, hbg, -⟩, -, -⟩ := hcells 8 4 hgauge
  obtain ⟨-, hfg, -⟩ := hcells 3 4 hlabel
  refine ⟨⟨hgauge, hscores, hbefore, hafter, hsymbol.trans ?_, hbg.trans ?_⟩,
    ⟨hlabel, hout, hfg hout⟩, by decide, htwice settings steps rfl⟩
  · exact congrArg Cell.symbol hbefore
  · exact congrArg Cell.bg hbefore

end Dashboard

end ShaperDash
