import ShaperDash.Proofs.Pane.Gauge

/-!
# The filled part of a bar

A gauge shows a number between 0 and 100: what is less than 0 or no number counts as 0, and what is
more than 100 as 100.  The filled cells are made of that number by three roundings: of its hundredth
part, of the product with the width of the bar, and to whole cells.  Each of them keeps the order,
and none of them moves the two ends.

* `Gauge.shown_mono` : a greater percentage is shown as no smaller number.
* `Gauge.filled_eq` : **the filled cells, as a function of rational numbers.**
* `Gauge.filled_mono`, `Gauge.filled_of_le_zero`, `Gauge.filled_of_hundred_le` : a greater
  percentage fills no fewer cells, nothing and less fills none, and the whole and more fills all.
-/

namespace ShaperDash

namespace Gauge

variable {p q : Datum} {x y : ℚ} {width : Nat}

/-! ### The cells for a number -/

/-- The cells of a bar that a number between 0 and 100 fills, in 64-bit arithmetic. -/
def cells (x : ℚ) (width : Nat) : Nat :=
  nearestNat .up (binary64.nearest (binary64.nearest (x / 100) * width))

theorem cells_zero (width : Nat) : cells 0 width = 0 := by
  have hzero := nearestNat_natCast .up 0
  rw [Nat.cast_zero] at hzero
  rw [cells, zero_div, Format.nearest_zero, zero_mul, Format.nearest_zero, hzero]

theorem cells_hundred (hwidth : width < 2 ^ 53) : cells 100 width = width := by
  rw [cells, div_self (by norm_num), Format.nearest_one, one_mul, Format.nearest_natCast hwidth,
    nearestNat_natCast]

theorem cells_mono (hx : 0 ≤ x) (h : x ≤ y) (width : Nat) : cells x width ≤ cells y width := by
  have hpart : binary64.nearest (x / 100) ≤ binary64.nearest (y / 100) :=
    Format.nearest_mono (by positivity) (by gcongr)
  have hnonneg : 0 ≤ binary64.nearest (x / 100) * width :=
    mul_nonneg Format.nearest_nonneg (Nat.cast_nonneg width)
  refine nearestNat_mono .up Format.nearest_nonneg (Format.nearest_mono hnonneg ?_)
  exact mul_le_mul_of_nonneg_right hpart (Nat.cast_nonneg width)

theorem cells_le (hx : 0 ≤ x) (hatmost : x ≤ 100) (hwidth : width < 2 ^ 53) :
    cells x width ≤ width :=
  (cells_mono hx hatmost width).trans_eq (cells_hundred hwidth)

theorem part_le_one (hatmost : x ≤ 100) : x / 100 ≤ 1 := (div_le_one (by norm_num)).2 hatmost

/-- Before it is rounded, the product is not greater than the width. -/
theorem part_mul_le (hx : 0 ≤ x) (hatmost : x ≤ 100) (width : Nat) :
    binary64.nearest (x / 100) * width ≤ width := by
  have hpart : binary64.nearest (x / 100) ≤ 1 :=
    (Format.nearest_mono (by positivity) (part_le_one hatmost)).trans_eq Format.nearest_one
  exact mul_le_of_le_one_left (Nat.cast_nonneg width) hpart

/-! ### The number for a percentage -/

/-- The number that a gauge shows for a percentage. -/
def shown (percent : Datum) : ℚ := ((limited percent).number?).getD 0

theorem shown_of_limited {s : Bool} {m : Nat} {e : Int} (h : limited p = .finite s m e)
    (hsign : s = true → m = 0) : shown p = scaled m e := by
  rw [shown, h, Datum.number_finite]
  cases s with
  | false => rfl
  | true => simp [hsign rfl, scaled]

theorem shown_nan : shown .nan = 0 := rfl

/-- A number is shown as the nearest one between 0 and 100. -/
theorem shown_finite (s : Bool) (m : Nat) (e : Int) :
    shown (.finite s m e) = max 0 (min 100 ((Datum.signed s m : ℚ) * 2 ^ e)) := by
  rw [shown, limited_finite]
  split_ifs with hlow hhigh
  · rw [max_eq_left (min_le_of_right_le hlow.le)]
    simp [Datum.number?, Datum.signed]
  · rw [ofNat_hundred, Datum.number_finite, scaled_hundred, min_eq_left hhigh.le,
      max_eq_right (by norm_num)]
    simp
  · rw [min_eq_right (not_lt.1 hhigh), max_eq_right (not_lt.1 hlow)]
    rfl

theorem shown_ofNat {n : Nat} (hn : n ≤ 100) : shown (binary64.ofNat n) = n := by
  obtain ⟨m, e, hdatum, hsize⟩ := Format.ofNat_eq (hn.trans (by decide))
  have hnumber : (Datum.signed false m : ℚ) * 2 ^ e = n := by
    simpa [Datum.signed, scaled] using hsize
  have hatmost : (n : ℚ) ≤ 100 := by exact_mod_cast hn
  rw [hdatum, shown_finite, hnumber, min_eq_right hatmost, max_eq_right (Nat.cast_nonneg n)]

theorem shown_infinite (s : Bool) : shown (.infinite s) = if s then 0 else 100 := by
  rw [shown, limited_infinite, ofNat_hundred]
  cases s with
  | false => simp [Datum.number_finite, scaled_hundred]
  | true => simp [Datum.number_finite, scaled]

/-- What a gauge shows is between 0 and 100. -/
theorem shown_mem (percent : Datum) : 0 ≤ shown percent ∧ shown percent ≤ 100 := by
  obtain h | ⟨s, m, e, h, hbound, hsign⟩ := limited_cases percent
  · rw [shown, h]
    norm_num [Datum.number?]
  · rw [shown_of_limited h hsign]
    exact ⟨scaled_nonneg m e, by exact_mod_cast hbound⟩

/-- A greater percentage is shown as no smaller number. -/
theorem shown_mono (h : p.le q = true) : shown p ≤ shown q := by
  obtain ⟨-, hatmost⟩ := shown_mem p
  obtain ⟨hnonneg, -⟩ := shown_mem q
  cases p with
  | nan => exact shown_nan.trans_le hnonneg
  | infinite s =>
    cases s with
    | true => exact (shown_infinite true).trans_le hnonneg
    | false =>
      -- only the infinity itself is not less
      obtain rfl : q = .infinite false := by
        cases q <;> simp_all [Datum.le]
      exact le_rfl
  | finite s m e =>
    cases q with
    | nan => simp [Datum.le] at h
    | infinite t =>
      cases t with
      | true => simp [Datum.le] at h
      | false => exact hatmost.trans_eq (shown_infinite false).symm
    | finite t n d =>
      rw [Datum.le_finite_iff] at h
      rw [shown_finite, shown_finite]
      gcongr

/-! ### The filled cells -/

/-- **The filled cells, as a function of rational numbers.** -/
theorem filled_eq (percent : Datum) (hwidth : width < UInt16.size) :
    filled (limited percent) width = cells (shown percent) width := by
  obtain h | ⟨s, m, e, h, hbound, hsign⟩ := limited_cases percent
  · rw [shown, h]
    exact (cells_zero width).symm
  · have hdatum : (limited percent).OfSize s (shown percent) :=
      ⟨m, e, h, (shown_of_limited h hsign).symm⟩
    obtain ⟨hnonneg, hatmost⟩ := shown_mem percent
    have hcells : (binary64.ofNat width).OfSize false width :=
      Format.ofNat_eq (hwidth.le.trans (by decide))
    have hone : shown percent / 100 ≤ (1 : Nat) := by exact_mod_cast part_le_one hatmost
    have hpart := Format.div_ofSize hdatum Format.hundred_ofSize (by norm_num)
      (hone.trans (Format.le_greatest (by decide)))
    have hproduct := Format.mul_ofSize hpart hcells
      ((part_mul_le hnonneg hatmost width).trans (Format.le_greatest (hwidth.le.trans (by decide))))
    have hround := Datum.roundToInteger_ofSize hproduct
    cases s with
    | true =>
      have hzero : shown percent = 0 := by
        rw [shown_of_limited h hsign, hsign rfl]
        simp [scaled]
      rw [filled, hzero, cells_zero]
      exact Datum.truncate_negative hround _
    | false =>
      have hle : cells (shown percent) width ≤ UInt16.size - 1 :=
        (cells_le hnonneg hatmost (hwidth.trans (by decide))).trans (Nat.le_sub_one_of_lt hwidth)
      refine (Datum.truncate_ofSize hround _).trans ?_
      rw [Nat.floor_natCast]
      exact min_eq_right hle

theorem filled_mono (hwidth : width < UInt16.size) (h : p.le q = true) :
    filled (limited p) width ≤ filled (limited q) width := by
  rw [filled_eq p hwidth, filled_eq q hwidth]
  exact cells_mono (shown_mem p).1 (shown_mono h) width

theorem filled_of_nan (hwidth : width < UInt16.size) : filled (limited .nan) width = 0 := by
  rw [filled_eq _ hwidth, shown_nan, cells_zero]

theorem filled_of_le_zero (hwidth : width < UInt16.size) (h : p.le (binary64.ofNat 0) = true) :
    filled (limited p) width = 0 := by
  have hatmost : shown p ≤ 0 := (shown_mono h).trans_eq (shown_ofNat (Nat.zero_le 100))
  rw [filled_eq p hwidth, le_antisymm hatmost (shown_mem p).1, cells_zero]

theorem filled_of_hundred_le (hwidth : width < UInt16.size)
    (h : (binary64.ofNat 100).le p = true) : filled (limited p) width = width := by
  have hatleast : 100 ≤ shown p := (shown_ofNat (le_refl 100)).symm.trans_le (shown_mono h)
  rw [filled_eq p hwidth, le_antisymm (shown_mem p).2 hatleast,
    cells_hundred (hwidth.trans (by decide))]

end Gauge

end ShaperDash
