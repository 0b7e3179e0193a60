import ShaperDash.Proofs.Json.Yields
import ShaperDash.Proofs.Palette
import ShaperDash.Proofs.Pane.HostRows
import ShaperDash.Proofs.Screen.Colors

/-!
# The colors of round trips

The round trip of a host is read as a number of 32 bits and colors one cell of the row of the host.
Whatever number the document spells, it is a number or an infinity when it is compared with the
brackets of a palette, so that of two hosts the one with the longer round trip has no lower color.

* `Status.decode_yields` : the round trips of a status that was read are numbers or infinities.
* `HostTable.colors_drawCell` : a cell of simple characters has its color all over.
* `HostTable.fg_roundTrip` : **the cell of a round trip has the color of its swatch.**
* `HostsPane.RoundTripCell` : the cells of the pane that show the round trip of a host.
* `HostsPane.colors_never_understate` : **of two hosts, the one with the longer round trip is shown
  in a color of a bracket that is no lower.**
-/

namespace ShaperDash

open Json Picture

/-! ### Hosts that were read -/

theorem HostStats.reader_yields : record.reader.Yields fun h => h.roundTrip ≠ .nan := by
  refine Record.reader_yields nofun ?_
  simp only [record, List.forall_mem_cons]
  exact ⟨Field.of_keeps (Reader.yields_of_forall fun _ _ h => h),
    Field.of_keeps (Reader.yields_of_forall fun _ _ h => h),
    Field.of_keeps fun cs d rest hr _ _ => Reader.single_yields cs d rest hr, List.forall_mem_nil _⟩

namespace Status

/-- All hosts of a status, those of both lists. -/
def hosts (s : Status) : List HostStats := s.topDownloaders ++ s.worstRoundTrips

/-- Whatever a document spells, the round trips of the status are numbers or infinities. -/
theorem decode_yields {document : String} {s : Status} (h : decode document = .ok s) :
    ∀ host ∈ s.hosts, host.roundTrip ≠ .nan := by
  have hyields : record.reader.Yields
      fun s : Status => ∀ host ∈ s.hosts, host.roundTrip ≠ .nan := by
    refine Record.reader_yields (List.forall_mem_nil _) ?_
    simp only [record, List.forall_mem_cons]
    refine ⟨Field.of_keeps (Reader.yields_of_forall fun _ _ h => h),
      Field.of_keeps (Reader.yields_of_forall fun _ _ h => h), Field.of_keeps ?_,
      Field.of_keeps ?_, List.forall_mem_nil _⟩
    all_goals
      intro cs hs rest hr s hold
      have hnew := HostStats.reader_yields.list cs hs rest hr
      simp only [hosts, List.forall_mem_append] at hold ⊢
    · exact ⟨hnew, hold.2⟩
    · exact ⟨hold.1, hnew⟩
  exact hyields.decode h

end Status

/-! ### Cells of simple characters -/

variable {x y room used : Nat} {style : Style} {l : Layer}

/-- Clusters of at most one column hide no cells, so that they name no color but their own. -/
theorem color?_of_mem_writeClusters {cs : List (List Char)} {first : Bool}
    (hcs : ∀ c ∈ cs, textColumns c ≤ 1) (hstyle : style.color? l = none) :
    ∀ s ∈ writeClusters x y room style first used cs, s.mark.color? l = none := by
  induction cs generalizing first used with
  | nil => exact List.forall_mem_nil _
  | cons c cs ih =>
    obtain ⟨hc, hcs⟩ := List.forall_mem_cons.1 hcs
    have hhidden : hiddenCells (x + used) y (textColumns c) = [] := by
      rw [hiddenCells, Nat.sub_eq_zero_of_le hc]
      rfl
    simp only [writeClusters, hhidden, List.nil_append]
    by_cases hfull : room < used + textColumns c
    · rw [if_pos hfull]
      exact List.forall_mem_nil _
    · rw [if_neg hfull]
      refine List.forall_mem_cons.2 ⟨?_, ih hcs⟩
      split_ifs <;> simp only [Mark.color?, hstyle, Option.map_none]

namespace HostTable

variable {q r : Region} {c : Content} {color : Rgb} {palette : Palette} {title : String}
  {hosts : List HostStats} {h : HostStats} {i : Nat}

theorem mem_of_mem_firstLine {cs : List Char} {d : Char} (hd : d ∈ firstLine cs) : d ∈ cs := by
  have hline : ∀ d ∈ cs.takeWhile (· ≠ '\n'), d ∈ cs := fun _ h => (List.takeWhile_subset _) h
  unfold firstLine at hd
  extract_lets line at hd
  split_ifs at hd
  · exact hline d (List.mem_of_mem_dropLast hd)
  · exact hline d hd

/-- A cell of simple characters has its color all over. -/
theorem colors_drawCell (hcovers : q.Covers x y) (htext : SimpleText c.text)
    (hcolor : c.style.color? .text = some color) :
    (drawCell q c).colors .text x y = [.rgb color] := by
  let line : Span := ⟨String.ofList (firstLine c.text.toList), .none⟩
  have hline : SimpleText line.text := by
    intro d hd
    rw [String.toList_ofList] at hd
    exact htext d (mem_of_mem_firstLine hd)
  have hcolumns : ∀ cs ∈ line.clusters, textColumns cs ≤ 1 := by
    intro cs hcs
    have hmem : (cs, line.style) ∈ styledClusters [line] :=
      List.mem_flatMap.2 ⟨line, List.mem_singleton_self line, List.mem_map_of_mem hcs⟩
    have hsimple : ∀ s ∈ [line], SimpleText s.text := List.forall_mem_singleton.2 hline
    exact (textColumns_of_simple hsimple _ hmem).le
  have hwritten : (writeLine q [line]).colors .text x y = [] := by
    refine colors_eq_nil fun s hs => ?_
    unfold writeLine at hs
    split_ifs at hs
    · exact absurd hs List.not_mem_nil
    · simp only [writeSpans, List.append_nil] at hs
      split_ifs at hs
      · exact absurd hs List.not_mem_nil
      · exact color?_of_mem_writeClusters hcolumns rfl s hs
  have hfill : (fill q c.style).colors .text x y = [.rgb color] := by
    rw [colors, marks_fill _ hcovers, List.filterMap_cons, Mark.color?, hcolor]
    rfl
  rw [drawCell, colors_append, hfill]
  split_ifs
  · rfl
  · exact congrArg (_ :: ·) hwritten

/-! ### Tables -/

/-- The column of the round trips, the last one. -/
def roundTripColumn (r : Region) : Region := (columns r).getLastD r

theorem columns_eq (r : Region) : ∃ q₀ q₁ q₂, columns r = [q₀, q₁, q₂, roundTripColumn r] :=
  ⟨_, _, _, rfl⟩

theorem roundTripColumn_width (r : Region) :
    (roundTripColumn r).width =
      min 10 (r.width - 23 - min 12 (r.width - 23) -
        min 12 (r.width - 23 - min 12 (r.width - 23))) :=
  rfl

/-- The last cell of the row of a host has the color of the swatch of its round trip. -/
theorem colors_row (h : HostStats) (palette : Palette)
    (hcovers : (roundTripColumn r).Covers x y) :
    ∃ before, (row h palette r).colors .text x y =
      before ++ [.rgb (palette.swatch h.roundTrip).rgb] := by
  have htext : SimpleText (h.roundTrip.fixed 1 ++ " ms") :=
    simpleText_append (Datum.simple_fixed _ _) (by decide)
  obtain ⟨q₀, q₁, q₂, hcolumns⟩ := columns_eq r
  rw [row, drawCells, hcolumns, hostCells]
  simp only [List.zip_cons_cons, List.zip_nil_right, List.flatMap_cons, List.flatMap_nil,
    List.append_nil, colors_append, ← List.append_assoc]
  exact ⟨_, congrArg _ (colors_drawCell hcovers htext rfl)⟩

/-- **The cell of a round trip has the color of its swatch**, in every row of a host. -/
theorem fg_roundTrip (hh : hosts[i]? = some h)
    (hcovers : (roundTripColumn r.inner).Covers x (r.y + 2 + i)) :
    ((draw title hosts palette r).cell x (r.y + 2 + i)).fg =
      .rgb (palette.swatch h.roundTrip).rgb := by
  obtain ⟨⟨hx, hx'⟩, -, hy⟩ := hcovers
  have hrow : i < r.height - 3 := by
    change r.y + 2 + i < r.y + 1 + (r.height - 2) at hy
    omega
  have hwidth : r.inner.width ≠ 0 := by
    rw [roundTripColumn_width] at hx'
    omega
  have hcovers' : (roundTripColumn (r.inner.row 0)).Covers x r.inner.y :=
    ⟨⟨hx, hx'⟩, Nat.le_refl _, Nat.lt_succ_self _⟩
  obtain ⟨before, hcolors⟩ := colors_row h palette hcovers'
  have hcolor : ((draw title hosts palette r).cell x (r.y + 2 + i)).fg =
      ((draw title hosts palette r).cell x (r.y + 2 + i)).color .text := rfl
  rw [hcolor, color_cell, colors, marks_draw hrow, if_neg hwidth, hh, Option.map_some,
    Option.getD_some, List.filterMap_append, ← colors, ← colors, hcolors, ← List.append_assoc,
    List.getLastD_concat]

/-- The column of the round trips lies inside the border. -/
theorem covers_of_roundTripColumn (h : (roundTripColumn r.inner).Covers x y) : r.Covers x y := by
  obtain ⟨q₀, q₁, q₂, hcolumns⟩ := columns_eq r.inner
  have hinner : r.inner.Covers x y := columns_inside (by simp [hcolumns]) x y h
  simp only [Region.Covers, Region.inner] at hinner ⊢
  omega

end HostTable

/-! ### The pane -/

namespace HostsPane

variable {d : Dashboard} {r : Region} {host host' : HostStats} {x y x' y' : Nat}

/-- The cells of the pane that show the round trip of a host: those of the last column in the row of
the host, in the table above or in the one below. -/
inductive RoundTripCell (d : Dashboard) (r : Region) : HostStats → Nat → Nat → Prop
  | upper {host : HostStats} {i x : Nat} : (busiest d)[i]? = some host →
      (HostTable.roundTripColumn r.upperHalf.inner).Covers x (r.upperHalf.y + 2 + i) →
      RoundTripCell d r host x (r.upperHalf.y + 2 + i)
  | lower {host : HostStats} {i x : Nat} : (slowest d)[i]? = some host →
      (HostTable.roundTripColumn r.lowerHalf.inner).Covers x (r.lowerHalf.y + 2 + i) →
      RoundTripCell d r host x (r.lowerHalf.y + 2 + i)

/-- The cell of a round trip has the color of its swatch. -/
theorem RoundTripCell.fg_eq (h : RoundTripCell d r host x y) :
    ((draw d r).cell x y).fg = .rgb (d.palette.swatch host.roundTrip).rgb := by
  cases h with
  | upper hhost hcovers =>
    have hupper := (HostTable.draw_local " Worst RTT " (slowest d) d.palette).cell_upperHalf
      (f := HostTable.draw " Top Downloaders " (busiest d) d.palette)
      (HostTable.covers_of_roundTripColumn hcovers)
    exact (congrArg Cell.fg hupper).trans (HostTable.fg_roundTrip hhost hcovers)
  | lower hhost hcovers =>
    have hlower := (HostTable.draw_local " Top Downloaders " (busiest d) d.palette).cell_lowerHalf
      (g := HostTable.draw " Worst RTT " (slowest d) d.palette)
      (HostTable.covers_of_roundTripColumn hcovers)
    exact (congrArg Cell.fg hlower).trans (HostTable.fg_roundTrip hhost hcovers)

/-- **Of two hosts, the one with the longer round trip has no lower color.**  Whatever status a
document spells, with numbers of any size in it, each round trip is a number or an infinity, so that
of any two of its hosts, in either list, one has the longer round trip; and in either palette the
color of that one belongs to a bracket that is no lower.  The pane shows the two hosts in such
colors.  A score that is a number or an infinity lies in the interval of one bracket only, and has
the swatch of this bracket. -/
theorem colors_never_understate :
    (∀ (document : String) (s : Status), Status.decode document = .ok s →
      (∀ host ∈ s.hosts, host.roundTrip ≠ .nan) ∧
      ∀ host ∈ s.hosts, ∀ host' ∈ s.hosts,
        (host.roundTrip.le host'.roundTrip = true ∨ host'.roundTrip.le host.roundTrip = true) ∧
        (host.roundTrip.le host'.roundTrip = true → ∀ p : Palette,
          p.bracketOf (p.swatch host.roundTrip).rgb ≤
            p.bracketOf (p.swatch host'.roundTrip).rgb)) ∧
    (∀ (d : Dashboard) (r : Region) (host host' : HostStats) (x y x' y' : Nat),
      RoundTripCell d r host x y → RoundTripCell d r host' x' y' →
      host.roundTrip.le host'.roundTrip = true →
        ∃ c c', ((draw d r).cell x y).fg = .rgb c ∧ ((draw d r).cell x' y').fg = .rgb c' ∧
          d.palette.bracketOf c ≤ d.palette.bracketOf c') ∧
    ∀ (p : Palette) (score : Datum), score ≠ .nan →
      ∃ x, score.extended? = some x ∧
        ∃ i, p.Contains i x ∧ p.swatches[i]? = some (p.swatch score) ∧
          ∀ j, p.Contains j x → j = i := by
  refine ⟨fun document s hs => ⟨Status.decode_yields hs, ?_⟩, ?_, fun p score hscore => ?_⟩
  · intro host hhost host' hhost'
    have htotal := Datum.le_total (Status.decode_yields hs host hhost)
      (Status.decode_yields hs host' hhost')
    exact ⟨htotal, fun hle p => p.bracketOf_mono hle⟩
  · intro d r host host' x y x' y' hcell hcell' hle
    exact ⟨_, _, hcell.fg_eq, hcell'.fg_eq, d.palette.bracketOf_mono hle⟩
  · obtain ⟨x, hx⟩ := Datum.exists_extended hscore
    exact ⟨x, hx, p.rank score, (Palette.contains_iff hx).2 rfl, p.swatches_rank score,
      fun j hj => (Palette.contains_iff hx).1 hj⟩

/-- A status with a round trip below zero in one list, and one in the other that is beyond all
numbers of 32 bits. -/
theorem colors_never_understate_beyond_range :
    let document := "\x7b\"host_counts\":[2,0],\"top_downloaders\":[\x7b\"ip_address\":\"a\"," ++
      "\"bits_per_second\":[1,2],\"median_tcp_rtt\":-5\x7d],\"worst_rtt\":[\x7b\"ip_address\":" ++
      "\"b\",\"bits_per_second\":[3,4],\"median_tcp_rtt\":1e39\x7d]\x7d"
    let host : HostStats := ⟨"a", ⟨1, 2⟩, .finite true 10485760 (-21)⟩
    let host' : HostStats := ⟨"b", ⟨3, 4⟩, .infinite false⟩
    let s : Status := ⟨⟨2, 0⟩, false, [host], [host']⟩
    let d : Dashboard := { Dashboard.start Config.default with status := some s }
    let r : Region := ⟨0, 0, 70, 12⟩
    Status.decode document = .ok s ∧ host.roundTrip ≠ .nan ∧
      Palette.bracketOf .metaverse (Palette.swatch .metaverse host.roundTrip).rgb ≤
        Palette.bracketOf .metaverse (Palette.swatch .metaverse host'.roundTrip).rgb ∧
      RoundTripCell d r host 60 2 ∧ RoundTripCell d r host' 60 8 ∧
      (∃ c c', ((draw d r).cell 60 2).fg = .rgb c ∧ ((draw d r).cell 60 8).fg = .rgb c' ∧
        Palette.bracketOf .regular c ≤ Palette.bracketOf .regular c') ∧
      ∃ x, host'.roundTrip.extended? = some x ∧ ∃ i, Palette.Contains .regular i x ∧
        (Palette.swatches .regular)[i]? = some (Palette.swatch .regular host'.roundTrip) := by
  intro document host host' s d r
  obtain ⟨hread, hshown, hscore⟩ := colors_never_understate
  have hdecode : Status.decode document = .ok s := toOption_eq_some_iff.1 (by decide +kernel)
  have hle : host.roundTrip.le host'.roundTrip = true := rfl
  have hcell : RoundTripCell d r host 60 2 :=
    RoundTripCell.upper (d := d) (r := r) (i := 0) (x := 60) rfl (by decide +kernel)
  have hplace : r.lowerHalf.y + 2 + 0 = 8 := by decide
  have hcell' : RoundTripCell d r host' 60 8 :=
    hplace ▸ RoundTripCell.lower (d := d) (r := r) (i := 0) (x := 60) rfl (by decide +kernel)
  obtain ⟨hnumber, hcolors⟩ := hread document s hdecode
  obtain ⟨x, hx, i, hcontains, hswatch, -⟩ := hscore .regular host'.roundTrip (by decide)
  exact ⟨hdecode, hnumber host (by decide),
    (hcolors host (by decide) host' (by decide)).2 hle .metaverse, hcell, hcell',
    hshown d r host host' 60 2 60 8 hcell hcell' hle, x, hx, i, hcontains, hswatch⟩

end HostsPane

end ShaperDash
