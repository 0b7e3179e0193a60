import ShaperDash.Scale
import ShaperDash.Proofs.Number.Bounds

/-!
# Hundredths of a unit

A number above a thousand is shown in the unit of its bracket, and what is shown is a function of
the number alone: the hundredths that are left after a division, a multiplication and another
division, each with its rounding.  All three keep the order and leave whole multiples of the unit
as they are, which settles the ends of a bracket.

* `scaleUnit_eq` : the unit that a number is shown in is the one of its bracket.
* `hundredths_ofSize` : **the arithmetic of the label, as rational numbers.**
* `shownHundredths_mono` : the hundredths of greater numbers are not less.
* `shownHundredths_eq_of_le` : up to a thousand units the last division does not show.
-/

namespace ShaperDash

variable {d : Datum} {u : Nat} {x y : ℚ} {letter : Char}

/-! ### Brackets -/

/-- The unit whose multiples a number is shown in, and its letter. -/
def bracket (x : ℚ) : Option (Nat × Char) := scaleUnits.find? fun u => decide ((u.1 : ℚ) < x)

theorem ofNat_lt_iff {n : Nat} (hn : n ≤ Nat.pow 2 52) (hx : d.number? = some x) :
    (binary64.ofNat n).lt d = true ↔ (n : ℚ) < x := by
  obtain ⟨m, e, hd, hsize⟩ := Format.ofNat_eq hn
  obtain ⟨t, k, e', rfl, rfl⟩ := Datum.eq_finite hx
  rw [hd, Datum.lt_finite_iff, ← hsize]
  cases t <;> simp [Datum.signed, scaled]

theorem scaleUnit_eq (hx : d.number? = some x) : scaleUnit? d = bracket x := by
  have hlt : ∀ n, n ≤ Nat.pow 2 52 → (binary64.ofNat n).lt d = decide ((n : ℚ) < x) := by
    intro n hn
    rw [Bool.eq_iff_iff, decide_eq_true_iff]
    exact ofNat_lt_iff hn hx
  simp only [scaleUnit?, bracket, scaleUnits, List.find?_cons, List.find?_nil]
  rw [hlt _ (by decide), hlt _ (by decide), hlt _ (by decide), hlt _ (by decide)]

theorem bracket_eq_none : bracket x = none ↔ x ≤ 1000 := by
  simp only [bracket, List.find?_eq_none, decide_eq_true_iff, not_lt]
  constructor
  · intro h
    exact_mod_cast h (1000, 'K') (by decide)
  · intro h u hu
    have hleast : ∀ u ∈ scaleUnits, 1000 ≤ u.1 := by decide
    exact h.trans (by exact_mod_cast hleast u hu)

theorem bracket_eq_last (h : 1000000000000 < x) : bracket x = some (1000000000000, 'T') := by
  refine List.find?_cons_of_pos ?_
  rw [decide_eq_true_iff]
  exact_mod_cast h

theorem bracket_spec (h : bracket x = some (u, letter)) :
    (u, letter) ∈ scaleUnits ∧ (u : ℚ) < x ∧ (x ≤ 1000 * u ∨ u = 1000000000000) := by
  refine ⟨List.mem_of_find?_eq_some h, by simpa using List.find?_some h, ?_⟩
  -- the unit before was passed over
  have hpassed : ∀ n k : Nat, decide ((n : ℚ) < x) = false → n = 1000 * k → x ≤ 1000 * k := by
    intro n k hn hk
    rw [decide_eq_false_iff_not, not_lt] at hn
    exact_mod_cast hk ▸ hn
  simp only [bracket, scaleUnits, List.find?_cons, List.find?_nil] at h
  split at h
  · cases h
    exact .inr rfl
  · rename_i hT
    split at h
    · cases h
      exact .inl (hpassed _ _ hT rfl)
    · rename_i hG
      split at h
      · cases h
        exact .inl (hpassed _ _ hG rfl)
      · rename_i hM
        split at h
        · cases h
          exact .inl (hpassed _ _ hM rfl)
        · cases h

/-- Different units are at least a thousand times apart. -/
theorem units_apart : ∀ u ∈ scaleUnits, ∀ v ∈ scaleUnits, u.1 < v.1 → 1000 * u.1 ≤ v.1 := by decide

theorem unit_le : ∀ u ∈ scaleUnits, 1000 ≤ u.1 ∧ u.1 ≤ 1000000000000 := by decide

/-- What a number of the format needs to be shown in its unit. -/
theorem bracket_range (hb : bracket x = some (u, letter)) (hx : x ≤ 2 ^ (1024 : Int)) :
    x ≤ u * 2 ^ (1000 : Int) := by
  have hthousand : (1000 : ℚ) ≤ 2 ^ (1000 : Int) :=
    (by norm_num : (1000 : ℚ) ≤ 2 ^ (10 : Int)).trans (zpow_le_zpow_right₀ one_le_two (by decide))
  rcases (bracket_spec hb).2.2 with hle | rfl
  · rw [mul_comm] at hle
    exact hle.trans (mul_le_mul_of_nonneg_left hthousand (Nat.cast_nonneg u))
  · refine hx.trans ?_
    rw [show (1024 : Int) = 24 + 1000 from rfl, zpow_add₀ two_ne_zero]
    exact mul_le_mul_of_nonneg_right (by norm_num) (two_zpow_pos _).le

/-! ### Hundredths -/

/-- The hundredths of a unit in a number, by a division and a multiplication that round to the
nearest number of the format. -/
def rawHundredths (u : Nat) (x : ℚ) : ℚ := binary64.nearest (binary64.nearest (x / u) * 100)

theorem rawHundredths_nonneg : 0 ≤ rawHundredths u x := Format.nearest_nonneg

/-- The whole hundredths that they are rounded to. -/
def roundedHundredths (u : Nat) (x : ℚ) : Nat := nearestNat .up (rawHundredths u x)

/-- The hundredths that the text shows of the number nearest to these. -/
def shownHundredths (u : Nat) (x : ℚ) : Nat :=
  nearestNat .even (binary64.nearest (roundedHundredths u x / 100) * 10 ^ 2)

theorem hundred_quotient_le (hu : 0 < u) (hx : 0 ≤ x) (hrange : x ≤ u * 2 ^ (1000 : Int)) :
    binary64.nearest (x / u) * 100 ≤ 2 ^ (1007 : Int) := by
  have hpos : (0 : ℚ) < u := by exact_mod_cast hu
  have hnear : binary64.nearest (x / u) ≤ 2 ^ (1000 : Int) :=
    Format.nearest_le_two_zpow (div_nonneg hx hpos.le) (by decide) ((div_le_iff₀' hpos).2 hrange)
  rw [show (1007 : Int) = 1000 + 7 from rfl, zpow_add₀ two_ne_zero]
  exact mul_le_mul hnear (by norm_num) (by norm_num) (two_zpow_pos _).le

theorem roundedHundredths_le_two_zpow (hu : 0 < u) (hx : 0 ≤ x)
    (hrange : x ≤ u * 2 ^ (1000 : Int)) : (roundedHundredths u x : ℚ) ≤ 2 ^ (1007 : Int) := by
  have hproduct := hundred_quotient_le hu hx hrange
  have hraw : rawHundredths u x ≤ 2 ^ (1007 : Int) :=
    Format.nearest_le_two_zpow (mul_nonneg Format.nearest_nonneg (by norm_num)) (by decide) hproduct
  have hmono := nearestNat_mono .up rawHundredths_nonneg hraw
  obtain ⟨n, hn⟩ := exists_natCast_eq 1007
  rw [Nat.cast_ofNat] at hn
  rw [hn, nearestNat_natCast] at hmono
  rw [hn]
  exact_mod_cast hmono

/-- **The arithmetic of the label**: the numbers on the way to the hundredths stay in the format. -/
theorem hundredths_ofSize (hx : d.OfSize false x) (hu : 0 < u) (hu' : u ≤ 1000000000000)
    (hrange : x ≤ u * 2 ^ (1000 : Int)) :
    (hundredths d u).OfSize false (binary64.nearest (roundedHundredths u x / 100)) := by
  have hnonneg : 0 ≤ x := by
    obtain ⟨m, e, -, rfl⟩ := hx
    exact scaled_nonneg m e
  have hpos : (0 : ℚ) < u := by exact_mod_cast hu
  have hinside : ∀ {y : ℚ}, y ≤ 2 ^ (1007 : Int) →
      y ≤ 2 ^ (binary64.precision + (binary64.maxExponent - 1)) := fun h =>
    h.trans (zpow_le_zpow_right₀ one_le_two (by decide))
  have hquotient : x / u ≤ 2 ^ (1007 : Int) :=
    ((div_le_iff₀' hpos).2 hrange).trans (zpow_le_zpow_right₀ one_le_two (by decide))
  have hproduct := hundred_quotient_le hu hnonneg hrange
  have hinteger := roundedHundredths_le_two_zpow hu hnonneg hrange
  have hunit := Format.ofNat_eq (hu'.trans (by decide))
  have hdiv := Format.div_ofSize (f := binary64) hx hunit hpos.ne' (hinside hquotient)
  have hmul := Format.mul_ofSize (f := binary64) hdiv Format.hundred_ofSize (hinside hproduct)
  refine Format.div_ofSize (f := binary64) (Datum.roundToInteger_ofSize hmul) Format.hundred_ofSize
    (by norm_num) (hinside ?_)
  exact (div_le_self (Nat.cast_nonneg _) (by norm_num)).trans hinteger

/-- The hundredths of greater numbers are not less. -/
theorem roundedHundredths_mono (u : Nat) (hx : 0 ≤ x) (h : x ≤ y) :
    roundedHundredths u x ≤ roundedHundredths u y := by
  have hquotient : x / u ≤ y / u := div_le_div_of_nonneg_right h (Nat.cast_nonneg u)
  have hnear := Format.nearest_mono (f := binary64) (div_nonneg hx (Nat.cast_nonneg u)) hquotient
  have hproduct := Format.nearest_mono (f := binary64)
    (mul_nonneg Format.nearest_nonneg (by norm_num))
    (mul_le_mul_of_nonneg_right hnear (by norm_num : (0 : ℚ) ≤ 100))
  exact nearestNat_mono .up Format.nearest_nonneg hproduct

theorem shownHundredths_mono (u : Nat) (hx : 0 ≤ x) (h : x ≤ y) :
    shownHundredths u x ≤ shownHundredths u y := by
  have hrounded : (roundedHundredths u x : ℚ) ≤ roundedHundredths u y := by
    exact_mod_cast roundedHundredths_mono u hx h
  have hnear := Format.nearest_mono (f := binary64) (by positivity)
    (div_le_div_of_nonneg_right hrounded (by norm_num : (0 : ℚ) ≤ 100))
  exact nearestNat_mono .even (mul_nonneg Format.nearest_nonneg (by norm_num))
    (mul_le_mul_of_nonneg_right hnear (by norm_num))

/-- Whole multiples of a unit are left as they are. -/
theorem roundedHundredths_mul (hu : 0 < u) {k : Nat} (hk : k * 100 < 2 ^ 53) :
    roundedHundredths u (k * u) = k * 100 := by
  have hunit : (u : ℚ) ≠ 0 := by exact_mod_cast hu.ne'
  have hproduct : (k * 100 : ℚ) = (k * 100 : Nat) := by push_cast; rfl
  rw [roundedHundredths, rawHundredths, mul_div_cancel_right₀ _ hunit,
    Format.nearest_natCast (by omega), hproduct, Format.nearest_natCast hk, nearestNat_natCast]

theorem hundred_le_roundedHundredths (hu : 0 < u) (h : u ≤ x) : 100 ≤ roundedHundredths u x := by
  have hone := roundedHundredths_mul hu (k := 1) (by decide)
  rw [Nat.cast_one, one_mul, Nat.one_mul] at hone
  rw [← hone]
  exact roundedHundredths_mono u (Nat.cast_nonneg u) h

theorem roundedHundredths_le (hu : 0 < u) (hx : 0 ≤ x) (h : x ≤ 1000 * u) :
    roundedHundredths u x ≤ 100000 := by
  have hthousand := roundedHundredths_mul hu (k := 1000) (by decide)
  rw [Nat.cast_ofNat] at hthousand
  exact (roundedHundredths_mono u hx h).trans_eq hthousand

/-- The last division and the rounding to two decimals bring the hundredths back. -/
theorem shownHundredths_eq (hlow : 100 ≤ roundedHundredths u x)
    (hhigh : roundedHundredths u x ≤ 2 ^ 51) : shownHundredths u x = roundedHundredths u x := by
  have hlow' : (100 : ℚ) ≤ roundedHundredths u x := by exact_mod_cast hlow
  have hhigh' : (roundedHundredths u x : ℚ) ≤ 2 ^ 51 := by exact_mod_cast hhigh
  rw [shownHundredths]
  generalize roundedHundredths u x = r at hlow' hhigh'
  have hquotient := Format.abs_nearest_sub_le_of_one_le (x := (r : ℚ) / 100) (by linarith)
  refine nearestNat_eq_of_abs_lt .even (mul_nonneg Format.nearest_nonneg (by norm_num)) ?_
  rw [abs_le] at hquotient
  rw [abs_lt]
  constructor <;> linarith

/-- Up to a thousand units the hundredths are shown as they were rounded. -/
theorem shownHundredths_eq_of_le (hu : 0 < u) (hlow : u ≤ x) (hhigh : x ≤ 1000 * u) :
    shownHundredths u x = roundedHundredths u x := by
  have hrounded := roundedHundredths_le hu ((Nat.cast_nonneg u).trans hlow) hhigh
  exact shownHundredths_eq (hundred_le_roundedHundredths hu hlow) (by omega)

/-- Up to a thousand units no more than a thousand are shown. -/
theorem shownHundredths_le (hu : 0 < u) (hlow : u ≤ x) (hhigh : x ≤ 1000 * u) :
    shownHundredths u x ≤ 100000 := by
  rw [shownHundredths_eq_of_le hu hlow hhigh]
  exact roundedHundredths_le hu ((Nat.cast_nonneg u).trans hlow) hhigh

/-- From a unit on at least one unit is shown. -/
theorem hundred_le_shownHundredths (hu : 0 < u) (h : u ≤ x) : 100 ≤ shownHundredths u x := by
  have hself : (u : ℚ) ≤ 1000 * u := le_mul_of_one_le_left (Nat.cast_nonneg u) (by norm_num)
  calc 100 ≤ roundedHundredths u u := hundred_le_roundedHundredths hu le_rfl
    _ = shownHundredths u u := (shownHundredths_eq_of_le hu le_rfl hself).symm
    _ ≤ shownHundredths u x := shownHundredths_mono u (Nat.cast_nonneg u) h

end ShaperDash
