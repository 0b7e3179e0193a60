import Mathlib.Algebra.Order.Floor.Semifield
import ShaperDash.Proofs.Number.Rounded

/-!
# The shortest numeral has the fewest digits

What is rounded to a number lies in its rounding interval, so that a decimal number which reads back
is a point of the interval on the grid of its last digit.  The search tries the grids from the
leading place of the number downwards.  On a grid that has a point in the interval one of the two
neighbours of the number lies there too, and the search stops.  So it stops before the grid of any
decimal number that reads back, unless that number is below the leading place; then the first power
of ten is between the two.

* `Format.contains_of_nearest` : **what is rounded to a number lies in its rounding interval.**
* `RoundingInterval.onGrid_ne_none` : a grid with a point in the interval is not passed over.
* `RoundingInterval.search_coefficient_le` : so the search gives no more digits than it needs.
* `Decimal.length_significant_le` : how many significant digits a number has at most.
* `Format.length_significant_shortest_le` : **no decimal number with fewer significant digits is
  rounded to the number that the shortest numeral spells.**
-/

namespace ShaperDash

variable {tie : Tie} {m : Nat} {e j k : Int} {x y z : ℚ}

theorem ten_zpow_pos (k : Int) : (0 : ℚ) < 10 ^ k := zpow_pos (by norm_num) k

/-- A place as so many units of a lower one. -/
theorem ten_zpow_split (h : j ≤ k) : (10 : ℚ) ^ k = (10 ^ (k - j).toNat : Nat) * 10 ^ j := by
  have hk : k = ((k - j).toNat : Int) + j := by omega
  conv_lhs => rw [hk, zpow_add₀ (by norm_num), zpow_natCast]
  push_cast
  rfl

/-- The units of a number in a lower place. -/
theorem units_eq {c n : Nat} (h : (c * 10 ^ k : ℚ) = n * 10 ^ j) (hle : j ≤ k) :
    n = c * 10 ^ (k - j).toNat := by
  rw [ten_zpow_split hle, ← mul_assoc] at h
  have hunits := mul_right_cancel₀ (ten_zpow_pos j).ne' h
  exact_mod_cast hunits.symm

/-! ### The rounding interval -/

namespace Format

variable {f : Format}

/-- What is rounded without a carry lies in the rounding interval of its number. -/
theorem contains_of_canonical [f.Regular] (hx : 0 < x) (hm : 0 < f.significandAt x) :
    (f.roundingInterval (f.significandAt x) (f.place x)).Contains x := by
  have hscale := two_zpow_pos (f.place x)
  have hvalue := scaled_significandAt (f := f) x
  -- the distance in units of the last place, and on a tie the parity
  have hnear : |x - f.nearest x| < 2 ^ f.place x / 2 ∨
      |x - f.nearest x| = 2 ^ f.place x / 2 ∧ f.significandAt x % 2 = 0 := by
    have hspec := nearestNat_even_spec (div_nonneg hx.le hscale.le)
    have hdiff : |x - f.nearest x| =
        |x / 2 ^ f.place x - f.significandAt x| * 2 ^ f.place x := by
      rw [← hvalue, scaled, ← abs_of_pos hscale, ← abs_mul, abs_of_pos hscale, sub_mul,
        div_mul_cancel₀ _ hscale.ne']
    have hhalf : (1 / 2 : ℚ) * 2 ^ f.place x = 2 ^ f.place x / 2 := one_div_mul_eq_div _ _
    rw [hdiff, ← hhalf]
    refine hspec.imp (fun hlt => mul_lt_mul_of_pos_right hlt hscale) fun heq => ?_
    exact ⟨congrArg (· * 2 ^ f.place x) heq.1, heq.2⟩
  refine ⟨?_, ?_⟩
  · by_cases hclose : f.Close (f.significandAt x) (f.place x)
    · -- `x` reaches the first bit of its place, which is the number itself
      rw [roundingInterval_lower_of_close hm hclose]
      have hfirst : f.significandAt x = 2 ^ (f.precision - 1) := hclose.1
      have hmin := hclose.2
      have hle := le_of_lt_place (f := f) (e := f.place x - 1) hx (by omega) (by omega)
      rw [← scaled_firstBit, ← hfirst] at hle
      exact .inl (by linarith)
    · rw [roundingInterval_lower hm hclose, roundingInterval_closed, hvalue]
      rcases hnear with hlt | ⟨heq, heven⟩
      · exact .inl (by linarith [(abs_lt.1 hlt).1])
      · have hle : f.nearest x - 2 ^ f.place x / 2 ≤ x := by linarith [neg_abs_le (x - f.nearest x)]
        exact hle.lt_or_eq.imp_right fun h => ⟨heven, h⟩
  · rw [roundingInterval_upper, roundingInterval_closed, hvalue]
    rcases hnear with hlt | ⟨heq, heven⟩
    · exact .inl (by linarith [(abs_lt.1 hlt).2])
    · have hle : x ≤ f.nearest x + 2 ^ f.place x / 2 := by linarith [le_abs_self (x - f.nearest x)]
      exact hle.lt_or_eq.imp_right fun h => ⟨heven, h⟩

/-- What is rounded up to the next place lies below the first number there, by a quarter of the
place at most. -/
theorem contains_of_carry [f.Regular] (hp : 1 < f.precision) (hx : 0 < x)
    (hcarry : f.significandAt x = 2 ^ f.precision) :
    (f.roundingInterval (2 ^ (f.precision - 1)) (f.place x + 1)).Contains x := by
  have hscale := two_zpow_pos (f.place x)
  have hnext : (2 : ℚ) ^ (f.place x + 1) = 2 ^ f.place x * 2 := zpow_add_one₀ two_ne_zero _
  obtain ⟨-, hvalue⟩ := canonical_carried (f.minExponent_le_place x)
  rw [← hcarry, scaled_significandAt] at hvalue
  have herror := (abs_le.1 (abs_nearest_sub_le (f := f) hx.le)).2
  have hbelow : x < f.nearest x := by
    rw [← scaled_significandAt, hcarry, scaled_pow]
    exact lt_of_place_le hx le_rfl
  have hmin := f.minExponent_le_place x
  have hclose : f.Close (2 ^ (f.precision - 1)) (f.place x + 1) := ⟨rfl, by omega⟩
  refine ⟨?_, .inl ?_⟩
  · have heven : 2 ^ (f.precision - 1) % 2 = 0 := by
      rw [← Nat.sub_add_cancel (Nat.le_sub_one_of_lt hp), Nat.pow_succ]
      exact Nat.mul_mod_left _ 2
    rw [roundingInterval_lower_of_close (Nat.two_pow_pos _) hclose, roundingInterval_closed, hvalue,
      hnext]
    have hle : f.nearest x - 2 ^ f.place x * 2 / 4 ≤ x := by linarith
    exact hle.lt_or_eq.imp_right fun h => ⟨heven, h⟩
  · rw [roundingInterval_upper, hvalue]
    linarith [two_zpow_pos (f.place x + 1)]

/-- **What is rounded to a number lies in its rounding interval.** -/
theorem contains_of_nearest [f.Regular] (hp : 1 < f.precision) (h : f.Canonical m e) (hm : 0 < m)
    (hx : 0 < x) (hnear : f.nearest x = scaled m e) : (f.roundingInterval m e).Contains x := by
  rw [← scaled_significandAt] at hnear
  by_cases hcarry : f.significandAt x = 2 ^ f.precision
  · obtain ⟨hcanonical, hvalue⟩ := canonical_carried (f := f) (f.minExponent_le_place x)
    obtain ⟨rfl, rfl⟩ := hcanonical.unique h (by rw [hvalue, ← hcarry, hnear])
    exact contains_of_carry hp hx hcarry
  · have hcanonical := (canonical_significandAt hx).resolve_right hcarry
    obtain ⟨rfl, rfl⟩ := hcanonical.unique h hnear
    exact contains_of_canonical hx hm

theorem contains_scaled (hm : 0 < m) : (f.roundingInterval m e).Contains (scaled m e) := by
  refine contains_of_abs_lt hm ?_
  rw [sub_self, abs_zero]
  linarith [two_zpow_pos e]

end Format

/-! ### The search -/

namespace RoundingInterval

variable {i : RoundingInterval}

theorem Contains.between (hx : i.Contains x) (hz : i.Contains z) (hxy : x ≤ y) (hyz : y ≤ z) :
    i.Contains y := by
  obtain ⟨hlow, -⟩ := hx
  obtain ⟨-, hhigh⟩ := hz
  refine ⟨?_, ?_⟩
  · rcases hlow with hlt | ⟨hclosed, heq⟩
    · exact .inl (hlt.trans_le hxy)
    · exact (heq.le.trans hxy).lt_or_eq.imp_right fun h => ⟨hclosed, h⟩
  · rcases hhigh with hlt | ⟨hclosed, heq⟩
    · exact .inl (hyz.trans_lt hlt)
    · exact (hyz.trans heq.le).lt_or_eq.imp_right fun h => ⟨hclosed, h⟩

/-- How often `10 ^ k` goes into the value. -/
def below (i : RoundingInterval) (k : Int) : Nat :=
  i.value * Nat.pow 10 (-k).toNat / (i.den * Nat.pow 10 k.toNat)

theorem below_eq (i : RoundingInterval) (k : Int) :
    i.below k = ⌊(i.value / i.den : ℚ) / 10 ^ k⌋₊ := by
  rw [below, ← Nat.floor_div_eq_div (K := ℚ), ten_zpow_eq, div_div_div_eq]
  push_cast
  rfl

theorem below_mul_le (i : RoundingInterval) (k : Int) :
    (i.below k * 10 ^ k : ℚ) ≤ i.value / i.den := by
  have hscale := ten_zpow_pos k
  rw [← le_div_iff₀ hscale, below_eq]
  exact Nat.floor_le (div_nonneg (by positivity) hscale.le)

theorem lt_succ_below_mul (i : RoundingInterval) (k : Int) :
    (i.value / i.den : ℚ) < (i.below k + 1 : Nat) * 10 ^ k := by
  have hscale := ten_zpow_pos k
  rw [← div_lt_iff₀ hscale, below_eq, Nat.cast_succ]
  exact Nat.lt_floor_add_one _

/-- On a grid with a point in the interval one of the neighbours of the value lies there. -/
theorem holds_below_or (hden : 0 < i.den) (hvalue : i.Contains (i.value / i.den)) {c : Nat}
    (hc : i.Contains (c * 10 ^ k)) :
    i.holds (i.below k) k = true ∨ i.holds (i.below k + 1) k = true := by
  have hscale := (ten_zpow_pos k).le
  rw [holds_iff hden, holds_iff hden]
  by_cases hle : c ≤ i.below k
  · refine .inl (hc.between hvalue ?_ (i.below_mul_le k))
    exact mul_le_mul_of_nonneg_right (by exact_mod_cast hle) hscale
  · refine .inr (hvalue.between hc (i.lt_succ_below_mul k).le ?_)
    exact mul_le_mul_of_nonneg_right (by exact_mod_cast Nat.lt_of_not_le hle) hscale

/-- A grid is passed over when neither neighbour of the value lies in the interval. -/
theorem holds_of_onGrid_eq_none (h : i.onGrid tie k = none) :
    i.holds (i.below k) k = false ∧ i.holds (i.below k + 1) k = false := by
  unfold onGrid at h
  extract_lets _ _ b near far at h
  have hbelow : b = i.below k := rfl
  have hnear : i.below k ≤ near ∧ near ≤ i.below k + 1 := roundDiv_bounds tie _ _
  rw [← hbelow] at hnear ⊢
  by_cases heq : near = b
  · have hfar : far = b + 1 := if_pos heq
    rw [heq, hfar] at h
    split_ifs at h with hlower hupper
    exact ⟨Bool.eq_false_of_not_eq_true hlower, Bool.eq_false_of_not_eq_true hupper⟩
  · have hfar : far = b := if_neg heq
    have hup : near = b + 1 := by omega
    rw [hup, hfar] at h
    split_ifs at h with hupper hlower
    exact ⟨Bool.eq_false_of_not_eq_true hlower, Bool.eq_false_of_not_eq_true hupper⟩

/-- **A grid with a point in the interval is not passed over.** -/
theorem onGrid_ne_none (hden : 0 < i.den) (hvalue : i.Contains (i.value / i.den)) {c : Nat}
    (hc : i.Contains (c * 10 ^ k)) : i.onGrid tie k ≠ none := by
  intro hnone
  obtain ⟨hbelow, habove⟩ := holds_of_onGrid_eq_none hnone
  rcases holds_below_or hden hvalue hc with hholds | hholds
  · exact absurd (hbelow.symm.trans hholds) (by decide)
  · exact absurd (habove.symm.trans hholds) (by decide)

theorem coefficient_of_onGrid_le {d : Decimal} (h : i.onGrid tie k = some d) :
    d.coefficient ≤ i.below k + 1 := by
  obtain ⟨-, hhigh⟩ := roundDiv_bounds tie (i.value * Nat.pow 10 (-k).toNat)
    (i.den * Nat.pow 10 k.toNat)
  rw [← below] at hhigh
  unfold onGrid at h
  extract_lets _ _ b near far at h
  have hfarther : far ≤ i.below k + 1 := by
    have hb : b = i.below k := rfl
    by_cases heq : near = b
    · exact (if_pos heq : far = b + 1).le
    · exact (if_neg heq : far = b).le.trans (Nat.le_succ _)
  split_ifs at h with hnear hfar
  · cases h
    exact hhigh
  · cases h
    exact hfarther

/-- The search gives a neighbour of the value on the grid where it stops, and it has passed over the
grids before. -/
theorem search_stops (i : RoundingInterval) (tie : Tie) (steps : Nat) (k : Int) :
    ∃ j ≤ k, (i.search tie steps k).coefficient ≤ i.below j + 1 ∧
      ∀ j', j < j' → j' ≤ k → i.onGrid tie j' = none := by
  induction steps generalizing k with
  | zero =>
    refine ⟨k, le_rfl, (roundDiv_bounds tie _ _).2, ?_⟩
    intro j' hlt hle
    exact absurd hlt (not_lt.2 hle)
  | succ steps ih =>
    simp only [search]
    cases hgrid : i.onGrid tie k with
    | some d =>
      refine ⟨k, le_rfl, coefficient_of_onGrid_le hgrid, ?_⟩
      intro j' hlt hle
      exact absurd hlt (not_lt.2 hle)
    | none =>
      obtain ⟨j, hle, hcoefficient, hpassed⟩ := ih (k - 1)
      refine ⟨j, by omega, hcoefficient, ?_⟩
      intro j' hlt hle'
      by_cases hlast : j' = k
      · rwa [hlast]
      · exact hpassed j' hlt (by omega)

/-- If the grid that gives a number from `10 ^ k` on `L` digits has a point in the interval, the
search from `10 ^ k` downwards does not get past it, and what it gives has no more digits. -/
theorem search_coefficient_le (hden : 0 < i.den) (hvalue : i.Contains (i.value / i.den))
    (hhigh : (i.value / i.den : ℚ) < 10 ^ (k + 1)) {c L : Nat} (hL : 0 < L)
    (hc : i.Contains (c * 10 ^ (k - (L - 1 : Nat)))) (steps : Nat) :
    (i.search tie steps k).coefficient ≤ 10 ^ L := by
  obtain ⟨j, hle, hcoefficient, hpassed⟩ := i.search_stops tie steps k
  have hstop : k - (L - 1 : Nat) ≤ j := by
    by_contra hlt
    exact onGrid_ne_none hden hvalue hc (hpassed _ (not_le.1 hlt) (by omega))
  have hbelow : i.below j < 10 ^ L := by
    have hlt : (i.below j * 10 ^ j : ℚ) < 10 ^ ((L : Int) + j) := by
      refine (i.below_mul_le j).trans_lt (hhigh.trans_le ?_)
      exact zpow_le_zpow_right₀ (by norm_num) (by omega)
    rw [zpow_add₀ (by norm_num), zpow_natCast] at hlt
    have hlt' := lt_of_mul_lt_mul_right hlt (ten_zpow_pos j).le
    exact_mod_cast hlt'
  omega

end RoundingInterval

/-! ### Significant digits -/

namespace Decimal

variable {d d' : Decimal}

theorem significant_eq_nil (h : d.coefficient = 0) : d.significant = [] := by
  have hzero : digitsOf 0 = ['0'] := rfl
  simp [significant, h, hzero]

/-- A digit that is no zero counts. -/
theorem digit_mod_ten {c : Char} (h : c.isDigit = true) (hne : c ≠ '0') (n : Nat) :
    (10 * n + (c.toNat - '0'.toNat)) % 10 ≠ 0 := by
  obtain ⟨hlow, hhigh⟩ := Char.isDigit_iff_toNat.1 h
  have hzero : c.toNat ≠ '0'.toNat := fun heq => hne (Char.toNat_inj.1 heq)
  have hfirst : '0'.toNat = 48 := rfl
  have hlast : '9'.toNat = 57 := rfl
  omega

/-- The significant digits begin with no zero, and end with none. -/
theorem significant_bounds (h : d.coefficient ≠ 0) :
    0 < d.significant.length ∧
      10 ^ (d.significant.length - 1) ≤ Nat.ofDigitChars 10 d.significant 0 ∧
      Nat.ofDigitChars 10 d.significant 0 < 10 ^ d.significant.length ∧
      Nat.ofDigitChars 10 d.significant 0 % 10 ≠ 0 := by
  obtain ⟨hdigits, -⟩ := d.significant_spec h
  obtain ⟨k, hzeros⟩ := d.exists_zeros
  have hcount := digitCount_coefficient hzeros
  have hlow := pow_digitCount_le (Nat.pos_of_ne_zero h)
  have hhigh := lt_pow_digitCount d.coefficient
  have hlength := List.length_pos_iff.2 hdigits.1
  have hpower : 0 < 10 ^ k := Nat.pow_pos (by decide)
  have hfront : d.significant.length + k - 1 = d.significant.length - 1 + k := by omega
  rw [hcount, coefficient_eq hzeros] at hlow hhigh
  rw [hfront, Nat.pow_add] at hlow
  rw [Nat.pow_add] at hhigh
  refine ⟨hlength, Nat.le_of_mul_le_mul_right hlow hpower, Nat.lt_of_mul_lt_mul_right hhigh, ?_⟩
  -- the zeros at the end are gone
  have hlast : ¬ (d.significant.getLast hdigits.1 == '0') = true :=
    List.rdropWhile_last_not (p := (· == '0')) (digitsOf d.coefficient) hdigits.1
  have hdigit := hdigits.2 _ (List.getLast_mem hdigits.1)
  have hsplit := List.dropLast_append_getLast hdigits.1
  generalize d.significant.getLast hdigits.1 = c at hlast hdigit hsplit
  rw [← hsplit, Nat.ofDigitChars_append, Nat.ofDigitChars_cons, Nat.ofDigitChars_nil]
  exact digit_mod_ten hdigit (fun heq => hlast (beq_iff_eq.2 heq)) _

/-- **A number that is at most `10 ^ L` units of a place has at most `L` significant digits.** -/
theorem length_significant_le {c L : Nat} (hL : 0 < L) (hc : c ≤ 10 ^ L)
    (hvalue : d.value = c * 10 ^ k) : d.significant.length ≤ L := by
  by_cases hzero : d.coefficient = 0
  · rw [significant_eq_nil hzero]
    exact Nat.zero_le L
  · obtain ⟨-, hspec⟩ := d.significant_spec hzero
    obtain ⟨hlength, hlow, -, hlast⟩ := significant_bounds hzero
    rw [hvalue] at hspec
    generalize Nat.ofDigitChars 10 d.significant 0 = n at hspec hlow hlast
    generalize d.pointPlace - d.significant.length = j at hspec
    -- the significant digits are units of a place that is no lower
    have hplace : k ≤ j := by
      by_contra hlt
      rw [not_le] at hlt
      have hunits := units_eq hspec hlt.le
      have hdvd : 10 ∣ 10 ^ (k - j).toNat := dvd_pow_self 10 (by omega)
      exact hlast (Nat.mod_eq_zero_of_dvd (hunits ▸ hdvd.mul_left c))
    have hunits := units_eq hspec.symm hplace
    have hle : n ≤ 10 ^ L := by
      refine Nat.le_trans ?_ hc
      rw [hunits]
      exact Nat.le_mul_of_pos_right n (Nat.pow_pos (by decide))
    by_contra hlong
    have hpower : 10 ^ L ≤ 10 ^ (d.significant.length - 1) :=
      Nat.pow_le_pow_right (by decide) (by omega)
    have heq : n = 10 ^ L := by omega
    exact hlast (Nat.mod_eq_zero_of_dvd (heq ▸ dvd_pow_self 10 hL.ne'))

/-- A number above zero in units of the place of its last significant digit. -/
theorem exists_units (h : 0 < d.value) :
    ∃ (c : Nat) (j : Int), d.value = c * 10 ^ j ∧ c < 10 ^ d.significant.length ∧
      0 < d.significant.length := by
  have hne : d.coefficient ≠ 0 := by
    intro hzero
    simp [value, hzero] at h
  obtain ⟨-, hspec⟩ := d.significant_spec hne
  obtain ⟨hlength, -, hhigh, -⟩ := significant_bounds hne
  exact ⟨_, _, hspec, hhigh, hlength⟩

end Decimal

/-! ### The shortest numeral -/

namespace Format

variable {f : Format} {d d' : Decimal}

/-- A decimal number in the rounding interval reaches the leading place of the value, or else that
is in the interval too: there is a point of the interval on the grid that is as many places finer
than the leading one as the number has further digits. -/
theorem exists_point {i : RoundingInterval} (hvalue : i.Contains (i.value / i.den))
    (hlow : (10 : ℚ) ^ k ≤ i.value / i.den) (hd : i.Contains d.value) (hpos : 0 < d.value) :
    ∃ c : Nat, i.Contains (c * 10 ^ (k - (d.significant.length - 1 : Nat))) := by
  obtain ⟨c, j, hunits, hc, hlength⟩ := Decimal.exists_units hpos
  generalize d.significant.length = L at hc hlength ⊢
  by_cases hreach : (10 : ℚ) ^ k ≤ d.value
  · -- the number has its last digit on that grid or a coarser one
    have hplace : k - (L - 1 : Nat) ≤ j := by
      have hlt : (10 : ℚ) ^ k < 10 ^ ((L : Int) + j) := by
        refine hreach.trans_lt ?_
        rw [hunits, zpow_add₀ (by norm_num), zpow_natCast]
        refine mul_lt_mul_of_pos_right ?_ (ten_zpow_pos j)
        exact_mod_cast hc
      have := (zpow_lt_zpow_iff_right₀ (by norm_num : (1 : ℚ) < 10)).1 hlt
      omega
    refine ⟨c * 10 ^ (j - (k - (L - 1 : Nat))).toNat, ?_⟩
    rw [Nat.cast_mul, mul_assoc, ← ten_zpow_split hplace, ← hunits]
    exact hd
  · -- the power of ten is between the number and the value
    refine ⟨10 ^ (k - (k - (L - 1 : Nat))).toNat, ?_⟩
    rw [← ten_zpow_split (by omega)]
    exact hd.between hvalue (not_le.1 hreach).le hlow

/-- **No decimal number with fewer significant digits** is rounded to the number that the shortest
numeral spells. -/
theorem length_significant_shortest_le [f.Regular] (hp : 1 < f.precision) (h : f.Canonical m e)
    (hd : f.nearest d.value = scaled m e) (hd' : d'.value = (f.shortest tie m e).value) :
    d'.significant.length ≤ d.significant.length := by
  rcases Nat.eq_zero_or_pos m with rfl | hm
  · have hzero : d'.coefficient = 0 := by
      have hvalue : d'.value = 0 := by rw [hd']; simp [shortest, Decimal.value]
      rw [Decimal.value, mul_eq_zero, or_iff_left (ten_zpow_pos _).ne'] at hvalue
      exact_mod_cast hvalue
    rw [Decimal.significant_eq_nil hzero]
    exact Nat.zero_le _
  · have hscaled : 0 < scaled m e := mul_pos (by exact_mod_cast hm) (two_zpow_pos e)
    have hpos : 0 < d.value := by
      refine d.value_nonneg.lt_of_ne fun hzero => hscaled.ne ?_
      rw [← hd, ← hzero, nearest_zero]
    have hmember := contains_of_nearest hp h hm hpos hd
    have hcentre := contains_scaled (f := f) (e := e) hm
    have hden : 0 < (f.roundingInterval m e).den := roundingInterval_den_pos
    have hnum : 0 < (f.roundingInterval m e).value := Nat.mul_pos (by omega) (Nat.two_pow_pos _)
    simp only [shortest, if_neg hm.ne'] at hd'
    rw [← roundingInterval_value (f := f)] at hcentre
    generalize f.roundingInterval m e = i at *
    have hlow := ten_zpow_leadingPlace_le hnum hden
    have hhigh := lt_ten_zpow_leadingPlace hnum hden
    generalize leadingPlace i.value i.den = k at hlow hhigh hd'
    -- the grid as fine as `d` needs it has a point, so that the search does not get past it
    obtain ⟨c, hpoint⟩ := exists_point hcentre hlow hmember hpos
    obtain ⟨-, -, -, -, hlength⟩ := Decimal.exists_units hpos
    exact Decimal.length_significant_le hlength
      (RoundingInterval.search_coefficient_le hden hcentre hhigh hlength hpoint f.precision) hd'

end Format

end ShaperDash
