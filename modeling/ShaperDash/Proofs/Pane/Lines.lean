import ShaperDash.Proofs.Pane.Gauge

/-!
# The lines of the system pane

The first line is that of the memory, and the others are those of the processors, in their order.
Each is a label, a gauge for a percentage of the sample, and, in the first, a text behind it.  The
labels of the memory and of a thousand processors have the same length, so that their gauges begin
in the same column.

* `SystemPane.label`, `SystemPane.percents` : the labels and the percentages of the lines.
* `SystemPane.exists_line` : **a line is its label, its gauge, and a text that does not depend on
  the palette.**
* `SystemPane.length_label` : the length of the labels.
-/

namespace ShaperDash

namespace SystemPane

/-- What stands in front of the gauge in a line. -/
def label : Nat → String
  | 0 => "  RAM  "
  | i + 1 => "  " ++ padRight 4 ("#" ++ toString i) ++ " "

/-- The percentages of the lines. -/
def percents (s : SystemSample) : List Datum := s.ramPercent :: s.cpu.map Single.value

theorem length_percents (s : SystemSample) : (percents s).length = s.cpu.length + 1 := by
  simp [percents]

theorem length_lines (s : SystemSample) (width : Nat) (palette : Palette) :
    (lines s width palette).length = (percents s).length := by
  simp [lines, percents]

theorem simple_label (i : Nat) : SimpleText (label i) := by
  cases i with
  | zero => decide
  | succ i =>
    have hnumber : SimpleText ("#" ++ toString i) :=
      simpleText_append (by decide) (simpleText_toString i)
    exact simpleText_append (simpleText_append (by decide) (simpleText_padRight 4 hnumber))
      (by decide)

theorem length_padRight {n : Nat} {s : String} (h : s.length ≤ n) : (padRight n s).length = n := by
  simp only [padRight, String.length_append, String.length_ofList, List.length_replicate]
  omega

/-- A number of three digits still leaves the label of its processor as long as that of the
memory. -/
theorem length_label {i : Nat} (hi : i ≤ 1000) : (label i).length = 7 := by
  cases i with
  | zero => rfl
  | succ i =>
    have hdigits : (toString i).length ≤ 3 := by
      rw [show toString i = i.repr from rfl, ← String.length_toList, Nat.toList_repr]
      exact (digitCount_le_iff (by decide)).2 (by omega)
    have hnumber : ("#" ++ toString i).length ≤ 4 := by
      rw [String.length_append]
      exact Nat.add_le_add_left hdigits 1
    rw [label, String.length_append, String.length_append, length_padRight hnumber]
    rfl

/-- A line is a label, a gauge and a text that does not depend on the palette. -/
theorem exists_line (s : SystemSample) (width i : Nat) (hi : i < (percents s).length) :
    ∃ style after, ∀ palette (h : i < (lines s width palette).length),
      (lines s width palette)[i] =
        [⟨label i, style⟩] ++ Gauge.spans (percents s)[i] width palette ++ after := by
  cases i with
  | zero => exact ⟨_, _, fun _ _ => rfl⟩
  | succ i =>
    refine ⟨.ofFg Theme.hint, [], fun palette h => ?_⟩
    simp [lines, percents, processorLine, label]

end SystemPane

end ShaperDash
