import ShaperDash.Proofs.Pane.Filled
import ShaperDash.Proofs.Pane.Lines
import ShaperDash.Proofs.Screen.Cells

/-!
# Gauges stand below each other

A pane of sixteen columns and more has room for a label of seven columns, for the bar, which is
shorter the narrower the pane is, and for a percentage of seven columns.  So the gauges of all lines
whose labels have the same length take the same columns, and the border cuts none of them.

* `SystemPane.draw_reads` : a row of the pane, character by character.
* `SystemPane.gauges_aligned` : **the gauges of the memory and of a thousand processors take the
  same columns inside the border, and a greater percentage fills no fewer cells.**
-/

namespace ShaperDash

open Picture

namespace SystemPane

variable {r : Region} {i : Nat}

/-- A label and a percentage of seven columns each, with the bar between them, are not wider than
the pane inside its border. -/
theorem gauge_fits (hwidth : 16 ≤ r.width) : 7 + gaugeWidth r.width + 7 ≤ r.inner.width := by
  simp only [gaugeWidth, Region.inner]
  omega

theorem gaugeWidth_le (width : Nat) : gaugeWidth width ≤ 40 := Nat.min_le_left ..

/-- In a row of the pane only its own line is drawn. -/
theorem marks_lines (lines : List (List Span)) (x : Nat) :
    marks (lines.zipIdx.flatMap fun p => paragraphLine (r.inner.row p.2) p.1) x (r.inner.y + i) =
      (lines[i]?.map fun line =>
        (paragraphLine (r.inner.row i) line).marks x (r.inner.y + i)).getD [] := by
  refine marks_numbered (f := fun line j => paragraphLine (r.inner.row j) line) fun line j hj => ?_
  refine ((paragraphLine_local line).within (r.inner.row j)).marks_eq_nil fun hcovers => ?_
  simp only [Region.Covers, Region.row] at hcovers
  omega

/-! ### Reading a line -/

section

variable (i : Nat) (style : Style) (percent : Datum) (width : Nat) (palette : Palette)

theorem simple_line :
    ∀ s ∈ [⟨label i, style⟩] ++ Gauge.spans percent width palette, SimpleText s.text := by
  intro s hs
  obtain hs | hs := List.mem_append.1 hs
  · obtain rfl := List.mem_singleton.1 hs
    exact simple_label i
  · exact Gauge.simple_spans percent width palette s hs

theorem characters_line :
    characters ([⟨label i, style⟩] ++ Gauge.spans percent width palette) =
      (label i).toList ++ (Gauge.bar percent width ++ Gauge.percentage percent) := by
  rw [← Gauge.characters_spans percent width palette]
  exact List.flatMap_cons

theorem length_line (hwidth : width ≤ Nat.pow 2 52) :
    (characters ([⟨label i, style⟩] ++ Gauge.spans percent width palette)).length =
      (label i).length + width + 7 := by
  rw [characters_line, List.length_append, List.length_append, String.length_toList,
    Gauge.length_bar percent width hwidth, Gauge.length_percentage, Nat.add_assoc]

end

variable (d : Dashboard)

/-- The beginning of a line is read in the row of that line. -/
theorem draw_reads_line {spans after : List Span}
    (hi : i < (lines d.system (gaugeWidth r.width) d.palette).length)
    (hline : (lines d.system (gaugeWidth r.width) d.palette)[i] = spans ++ after)
    (hsimple : ∀ s ∈ spans, SimpleText s.text) (hrow : i < r.inner.height)
    (hfits : (characters spans).length ≤ r.inner.width) :
    (draw d r).Reads r.inner.x (r.inner.y + i) (characters spans) := by
  intro k hk
  have hinside : r.inner.Covers (r.inner.x + k) (r.inner.y + i) := by
    simp only [Region.Covers]
    omega
  obtain ⟨look, hput⟩ : ∃ look, (paragraphLine (r.inner.row i) (spans ++ after)).marks
      (r.inner.x + k) (r.inner.y + i) = [.put [(characters spans)[k]] look] :=
    marks_paragraphLine (r := r.inner.row i) hsimple Nat.one_pos hfits hk after
  rw [cell, draw, marks_append, Block.marks_inner hinside, marks_lines,
    List.getElem?_take_of_lt hrow, List.getElem?_eq_getElem hi, hline, Option.map_some,
    Option.getD_some, hput]
  rfl

/-- **A row of the pane is read as its label, its bar and its percentage**, if they fit in. -/
theorem draw_reads (hi : i < (percents d.system).length) (hrow : i < r.inner.height)
    (hfits : (label i).length + gaugeWidth r.width + 7 ≤ r.inner.width) :
    (draw d r).Reads r.inner.x (r.inner.y + i)
      ((label i).toList ++ (Gauge.bar (percents d.system)[i] (gaugeWidth r.width) ++
        Gauge.percentage (percents d.system)[i])) := by
  obtain ⟨style, after, hline⟩ := exists_line d.system (gaugeWidth r.width) i hi
  have hlength : i < (lines d.system (gaugeWidth r.width) d.palette).length := by
    rwa [length_lines]
  have hshort : gaugeWidth r.width ≤ Nat.pow 2 52 := (gaugeWidth_le _).trans (by decide)
  rw [← length_line i style (percents d.system)[i] _ d.palette hshort] at hfits
  rw [← characters_line i style _ _ d.palette]
  exact draw_reads_line d hlength (hline d.palette hlength) (simple_line i style _ _ d.palette)
    hrow hfits

/-- **Gauges stand below each other and are never cut.**  In a pane of sixteen columns and more,
whatever was measured,

* each line of the memory and of the first thousand processors that there is a row for shows, from
  the eighth column inside the border on, a bar of `g` cells, the filled ones first, and behind it a
  percentage of seven columns, and the border is not before its end;
* a greater percentage fills no fewer cells, nothing, less and what is no number fill none, and the
  whole and more fill all. -/
theorem gauges_aligned (d : Dashboard) {r : Region} (hwidth : 16 ≤ r.width) :
    let g := min 40 (r.width - 20)
    let percents := percents d.system
    let filled (percent : Datum) := Gauge.filled (Gauge.limited percent) g
    7 + g + 7 ≤ r.inner.width ∧
      (∀ i (hi : i < percents.length), i ≤ 1000 → i < r.inner.height →
        let full := filled percents[i]
        let percentage := Gauge.percentage percents[i]
        full ≤ g ∧ percentage.length = 7 ∧
          (draw d r).Reads (r.inner.x + 7) (r.inner.y + i)
            (List.replicate full '█' ++ List.replicate (g - full) '░' ++ percentage)) ∧
      (∀ p q : Datum, p.le q = true → filled p ≤ filled q) ∧
      (∀ p : Datum, p = .nan ∨ p.le (binary64.ofNat 0) = true → filled p = 0) ∧
      ∀ p : Datum, (binary64.ofNat 100).le p = true → filled p = g := by
  intro g percents filled
  have hg : g < UInt16.size := (gaugeWidth_le r.width).trans_lt (by decide)
  refine ⟨gauge_fits hwidth, fun i hi hnumber hrow => ?_, fun p q => Gauge.filled_mono hg,
    fun p hp => ?_, fun p => Gauge.filled_of_hundred_le hg⟩
  · have hlabel := length_label hnumber
    have hfits := gauge_fits hwidth
    have hreads := (draw_reads d hi hrow (by omega)).behind
    rw [String.length_toList, hlabel] at hreads
    exact ⟨Gauge.filled_le _ (hg.le.trans (by decide)), Gauge.length_percentage _, hreads⟩
  · obtain rfl | hp := hp
    · exact Gauge.filled_of_nan hg
    · exact Gauge.filled_of_le_zero hg hp

/-- Six columns for the bars of three fifths of the memory, of no number, of an infinity, and of a
half. -/
theorem gauges_aligned_unusual_usages :
    let d : Dashboard := { Dashboard.start ⟨1000, .regular, none, 10, 3⟩ with
      system := ⟨[⟨0x7fc00000⟩, ⟨0x7f800000⟩, ⟨0x42480000⟩], 60, 100⟩ }
    let r : Region := ⟨2, 3, 26, 9⟩
    let reads (i : Nat) (text : String) :=
      (draw d r).Reads (r.inner.x + 7) (r.inner.y + i) text.toList
    16 ≤ r.width ∧
      (reads 0 "████░░  60.0%" ∧ reads 1 "░░░░░░   NaN%" ∧ reads 2 "██████ 100.0%" ∧
        reads 3 "███░░░  50.0%") ∧
      (binary64.ofNat 50).le (binary64.ofNat 60) = true ∧
      Gauge.filled (Gauge.limited (binary64.ofNat 50)) 6 ≤
        Gauge.filled (Gauge.limited (binary64.ofNat 60)) 6 ∧
      Gauge.filled (Gauge.limited (.infinite true)) 6 = 0 ∧
      Gauge.filled (Gauge.limited (.infinite false)) 6 = 6 := by
  intro d r reads
  have hwidth : 16 ≤ r.width := by decide
  have horder : (binary64.ofNat 50).le (binary64.ofNat 60) = true := by decide +kernel
  obtain ⟨-, hrows, hmono, hnone, hall⟩ := gauges_aligned d hwidth
  have hreads : ∀ i (hi : i < (percents d.system).length) (text : String), i < r.inner.height →
      Gauge.bar (percents d.system)[i] 6 ++ Gauge.percentage (percents d.system)[i] = text.toList →
      reads i text := by
    intro i hi text hrow htext
    have hnumber : i ≤ 1000 := hrow.le.trans (by decide)
    simp only [reads]
    rw [← htext]
    exact (hrows i hi hnumber hrow).2.2
  refine ⟨hwidth, ⟨?_, ?_, ?_, ?_⟩, horder, hmono _ _ horder, hnone _ (.inr (by decide +kernel)),
    hall _ (by decide +kernel)⟩
  · exact hreads 0 (by decide) _ (by decide) (by decide +kernel)
  · exact hreads 1 (by decide) _ (by decide) (by decide +kernel)
  · exact hreads 2 (by decide) _ (by decide) (by decide +kernel)
  · exact hreads 3 (by decide) _ (by decide) (by decide +kernel)

end SystemPane

end ShaperDash
