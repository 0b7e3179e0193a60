import Mathlib.Tactic.NormNum
import Mathlib.Tactic.Ring
import ShaperDash.Proofs.Number.Bounds
import ShaperDash.Proofs.Number.Numerals
import ShaperDash.Proofs.Screen.Colorless

/-!
# The gauges of the system pane

A gauge is a bar and a percentage.  The percentage is brought between 0 and 100, so that the filled
part is never longer than the bar and the number never longer than five characters; what is no
number stays none and fills nothing.  So a gauge takes the same cells whatever it shows, and its
text does not depend on the palette.

* `Gauge.limited_cases` : a percentage that was brought between 0 and 100.
* `Gauge.filled_le` : the filled part is not longer than the bar.
* `Gauge.characters_spans` : a gauge is written as its bar and its percentage.
* `Gauge.length_spans` : **a gauge takes seven cells more than its bar, whatever it shows.**
-/

namespace ShaperDash

namespace Gauge

/-! ### The percentage -/

theorem ofNat_hundred : binary64.ofNat 100 = .finite false 7036874417766400 (-46) := by
  decide +kernel

theorem scaled_hundred : scaled 7036874417766400 (-46) = (100 : Nat) := by
  norm_num [scaled]

/-- Data are compared with the ends as the numbers that they stand for. -/
theorem lt_zero_iff {s : Bool} {m : Nat} {e : Int} :
    (Datum.finite s m e).lt (.finite false 0 binary64.minExponent) = true ↔
      (Datum.signed s m : ℚ) * 2 ^ e < 0 := by
  rw [Datum.lt_finite_iff]
  simp [Datum.signed]

theorem hundred_lt_iff {s : Bool} {m : Nat} {e : Int} :
    (binary64.ofNat 100).lt (.finite s m e) = true ↔
      100 < (Datum.signed s m : ℚ) * 2 ^ e := by
  have hhundred : (Datum.signed false 7036874417766400 : ℚ) * 2 ^ (-46 : Int) = 100 := by
    simpa [scaled, Datum.signed] using scaled_hundred
  rw [ofNat_hundred, Datum.lt_finite_iff, hhundred]

theorem hundred_not_lt_zero :
    (binary64.ofNat 100).lt (.finite false 0 binary64.minExponent) = false := by
  rw [← Bool.not_eq_true, hundred_lt_iff]
  norm_num [Datum.signed]

theorem limited_infinite (s : Bool) :
    limited (.infinite s) =
      if s then .finite false 0 binary64.minExponent else binary64.ofNat 100 := by
  have hlow : (Datum.infinite s).lt (.finite false 0 binary64.minExponent) = s := by
    cases s <;> rfl
  cases s with
  | false => simp [limited, Datum.clamp, Datum.lt, ofNat_hundred]
  | true => simp [limited, Datum.clamp, hlow, hundred_not_lt_zero]

/-- A number that is beyond one of the two ends comes to that end, and the others stay. -/
theorem limited_finite (s : Bool) (m : Nat) (e : Int) :
    limited (.finite s m e) =
      if (Datum.signed s m : ℚ) * 2 ^ e < 0 then .finite false 0 binary64.minExponent
      else if 100 < (Datum.signed s m : ℚ) * 2 ^ e then binary64.ofNat 100
      else .finite s m e := by
  simp only [limited, Datum.clamp, lt_zero_iff]
  by_cases hlow : (Datum.signed s m : ℚ) * 2 ^ e < 0
  · simp [hlow, hundred_not_lt_zero]
  · simp only [if_neg hlow, hundred_lt_iff]

/-- A number that is beyond neither end lies between 0 and 100, and is a zero if it has a sign. -/
theorem between_of_not_lt {s : Bool} {m : Nat} {e : Int}
    (hlow : ¬ (Datum.signed s m : ℚ) * 2 ^ e < 0)
    (hhigh : ¬ 100 < (Datum.signed s m : ℚ) * 2 ^ e) :
    scaled m e ≤ (100 : Nat) ∧ (s = true → m = 0) := by
  cases s with
  | false => exact ⟨by simpa [scaled, Datum.signed] using hhigh, Bool.noConfusion⟩
  | true =>
    have hm : m = 0 := by
      by_contra hm
      refine hlow (mul_neg_of_neg_of_pos ?_ (zpow_pos two_pos e))
      simpa [Datum.signed] using Nat.pos_of_ne_zero hm
    exact ⟨by simp [scaled, hm], fun _ => hm⟩

/-- A percentage that was brought between 0 and 100 is between them, a zero with a sign included, or
no number. -/
theorem limited_cases (percent : Datum) :
    limited percent = .nan ∨
      ∃ s m e, limited percent = .finite s m e ∧ scaled m e ≤ (100 : Nat) ∧ (s = true → m = 0) := by
  have hzero : scaled 0 binary64.minExponent ≤ (100 : Nat) := by simp [scaled]
  cases percent with
  | nan => exact .inl rfl
  | infinite s =>
    rw [limited_infinite, ofNat_hundred]
    cases s with
    | false => exact .inr ⟨_, _, _, rfl, scaled_hundred.le, Bool.noConfusion⟩
    | true => exact .inr ⟨_, _, _, rfl, hzero, Bool.noConfusion⟩
  | finite s m e =>
    rw [limited_finite, ofNat_hundred]
    split_ifs with hlow hhigh
    · exact .inr ⟨_, _, _, rfl, hzero, Bool.noConfusion⟩
    · exact .inr ⟨_, _, _, rfl, scaled_hundred.le, Bool.noConfusion⟩
    · exact .inr ⟨s, m, e, rfl, between_of_not_lt hlow hhigh⟩

/-! ### The bar -/

/-- The filled part is not longer than the bar: a hundredth of the percentage is at most one, and no
rounding on the way takes more cells than there are. -/
theorem filled_le (percent : Datum) {width : Nat} (hwidth : width ≤ Nat.pow 2 52) :
    filled (limited percent) width ≤ width := by
  obtain h | ⟨s, m, e, h, hbound, -⟩ := limited_cases percent
  · rw [h]
    exact Nat.zero_le width
  · obtain ⟨m₁, e₁, hpart, hle₁⟩ := Format.div_le (s := s) (t := false) (k := 1)
      (m := m) (n := 7036874417766400) (e := e) (d := -46) (by decide) (by decide)
      (by simpa [scaled_hundred] using hbound)
    obtain ⟨m₂, e₂, hcells, hle₂⟩ := Format.ofNat_le hwidth
    have hscaled : scaled m₁ e₁ * scaled m₂ e₂ ≤ width :=
      calc scaled m₁ e₁ * scaled m₂ e₂
          ≤ 1 * width := mul_le_mul (by simpa using hle₁) hle₂ (scaled_nonneg ..) zero_le_one
        _ = width := one_mul _
    obtain ⟨m₃, e₃, hproduct, hle₃⟩ := Format.mul_le (s := s != false) (t := false) hwidth hscaled
    obtain ⟨m₄, e₄, hround, hle₄⟩ := Datum.roundToInteger_le (s := ((s != false) != false)) hle₃
    rw [h, filled, ofNat_hundred, hpart, hcells, hproduct, hround]
    exact Datum.truncate_le hle₄ _

/-! ### The text -/

/-- The percentage has no more characters than its field: `100.0` is the longest number, and the
only one with a sign is `-0.0`. -/
theorem length_percent (percent : Datum) : ((limited percent).fixed 1).length ≤ 5 := by
  obtain h | ⟨s, m, e, h, hbound, hsign⟩ := limited_cases percent
  · rw [h]
    decide
  · have hunits : Datum.fixedUnits 1 m e ≤ 1000 := by
      refine roundDiv_le .even (Nat.two_pow_pos _) ?_
      calc m * Nat.pow 2 e.toNat * Nat.pow 10 1
          ≤ 100 * Nat.pow 2 (-e).toNat * Nat.pow 10 1 :=
            Nat.mul_le_mul_right _ (scaled_le_iff.1 hbound)
        _ = 1000 * Nat.pow 2 (-e).toNat := by simp only [Nat.pow_eq]; ring
    have hwhole : (digitsOf (Datum.fixedUnits 1 m e / Nat.pow 10 1)).length ≤ 3 :=
      (digitCount_le_iff (by decide)).2
        (Nat.lt_of_le_of_lt (Nat.div_le_div_right hunits) (by decide))
    have htenth : (zeroPadded 1 (Datum.fixedUnits 1 m e % Nat.pow 10 1)).length = 1 :=
      length_zeroPadded Nat.one_pos (Nat.mod_lt _ (by decide))
    rw [h, Datum.fixed, String.length_ofList, List.length_append, List.length_append,
      List.length_cons, htenth]
    cases s with
    | false => exact Nat.add_le_add_right ((Nat.zero_add _).trans_le hwhole) 2
    | true =>
      have hzero : Datum.fixedUnits 1 m e = 0 := by simp [hsign rfl, Datum.fixedUnits, roundDiv]
      rw [hzero]
      decide

theorem length_padLeft {n : Nat} {s : String} (h : s.length ≤ n) : (padLeft n s).length = n := by
  simp only [padLeft, String.length_append, String.length_ofList, List.length_replicate]
  omega

variable (percent : Datum) (width : Nat) (palette : Palette)

/-- The cells of the bar: the filled ones, and then the empty ones. -/
def bar : List Char :=
  let full := filled (limited percent) width
  List.replicate full '\u2588' ++ List.replicate (width - full) '\u2591'

/-- The cells of the percentage: a number with one decimal. -/
def percentage : List Char := (" " ++ padLeft 5 ((limited percent).fixed 1) ++ "%").toList

theorem length_bar (hwidth : width ≤ Nat.pow 2 52) : (bar percent width).length = width := by
  have hfilled := filled_le percent hwidth
  simp only [bar, List.length_append, List.length_replicate]
  omega

theorem length_percentage : (percentage percent).length = 7 := by
  rw [percentage, String.length_toList, String.length_append, String.length_append,
    length_padLeft (length_percent percent)]
  rfl

/-- A gauge is written as its bar and its percentage. -/
theorem characters_spans :
    characters (spans percent width palette) = bar percent width ++ percentage percent := by
  have hrun : ∀ (c : Char) (n : Nat) (color : Rgb),
      characters (run c n color) = List.replicate n c := by
    intro c n color
    unfold run
    split_ifs with hn
    · rw [hn]
      rfl
    · simp [characters]
  simp only [characters, spans, List.flatMap_append] at hrun ⊢
  rw [hrun, hrun]
  simp [bar, percentage]

theorem simple_spans : ∀ s ∈ spans percent width palette, SimpleText s.text := by
  have hrun : ∀ (c : Char) (n : Nat) (color : Rgb), Simple c →
      ∀ s ∈ run c n color, SimpleText s.text := by
    intro c n color hc s hs
    unfold run at hs
    split_ifs at hs
    · exact absurd hs List.not_mem_nil
    · obtain rfl := List.mem_singleton.1 hs
      exact simpleText_replicate hc n
  intro s hs
  simp only [spans, List.mem_append, List.mem_singleton] at hs
  obtain (hs | hs) | rfl := hs
  · exact hrun _ _ _ (by decide +kernel) s hs
  · exact hrun _ _ _ (by decide +kernel) s hs
  · exact simpleText_append (simpleText_append (by decide)
      (simpleText_padLeft 5 (Datum.simple_fixed _ 1))) (by decide)

/-- The palette gives colors only. -/
theorem colorless_spans (palette' : Palette) :
    (spans percent width palette).map Span.colorless =
      (spans percent width palette').map Span.colorless := by
  have hrun : ∀ (c : Char) (n : Nat) (color color' : Rgb),
      (run c n color).map Span.colorless = (run c n color').map Span.colorless := by
    intro c n color color'
    unfold run
    split_ifs <;> rfl
  simp only [spans, List.map_append]
  rw [hrun _ _ _ (palette'.swatch (limited percent)).rgb]
  rfl

/-- **A gauge takes seven cells more than its bar, whatever it shows.** -/
theorem length_spans (hwidth : width ≤ Nat.pow 2 52) :
    (styledClusters (spans percent width palette)).length = width + 7 := by
  rw [length_styledClusters (simple_spans percent width palette), characters_spans,
    List.length_append, length_bar percent width hwidth, length_percentage]

end Gauge

end ShaperDash
