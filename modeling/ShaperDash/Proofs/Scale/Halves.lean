import ShaperDash.Proofs.Scale.Accuracy

/-!
# Counters halfway between two hundredths

A counter may lie exactly halfway between two hundredths of its unit.  The hundredths before they
are whole then lie so close to the half that the label shows one of its two neighbours; which one,
the rounding of the quotient decides.  It goes up unless the quotient is rounded down so far that
the product falls more than half a last place short of the half.

* `half_le_nearest_iff` : from where on rounding reaches a half.
* `scaleCount_of_half` : **the label of every counter at a half.**
* `scaleCount_of_half_up` : the greater neighbour is shown when the quotient is not rounded down.
* `not_all_halves_go_up` : some halves go down.
-/

namespace ShaperDash

variable {n k u : Nat} {x y : ℚ}

/-- As a number of the format a half has an even significand, above the first bit alone. -/
theorem exists_canonical_half (hk : 0 < k) (hk' : k < 2 ^ 50) :
    ∃ m, binary64.Canonical m (k.log2 - 52) ∧ scaled m (k.log2 - 52) = k + 1 / 2 ∧
      2 ^ (binary64.precision - 1) < m ∧ m % 2 = 0 := by
  have hlow : 2 ^ k.log2 ≤ k := Nat.log2_self_le hk.ne'
  have hhigh : k < 2 ^ (k.log2 + 1) := Nat.lt_log2_self
  have hlog : k.log2 < 50 := (Nat.pow_lt_pow_iff_right one_lt_two).1 (hlow.trans_lt hk')
  have hbit : 2 ^ (k.log2 + 1) = 2 * 2 ^ k.log2 := Nat.pow_succ'
  have hpower : 2 ^ k.log2 * 2 ^ (51 - k.log2) = 2 ^ 51 := by
    rw [← Nat.pow_add]
    congr 1
    omega
  have hfirst : 2 ^ (binary64.precision - 1) < (2 * k + 1) * 2 ^ (51 - k.log2) :=
    calc 2 ^ 52 = 2 * 2 ^ k.log2 * 2 ^ (51 - k.log2) := by rw [Nat.mul_assoc, hpower]; rfl
      _ < (2 * k + 1) * 2 ^ (51 - k.log2) :=
        Nat.mul_lt_mul_of_pos_right (by omega) (Nat.two_pow_pos _)
  have hlast : (2 * k + 1) * 2 ^ (51 - k.log2) < 2 ^ binary64.precision :=
    calc (2 * k + 1) * 2 ^ (51 - k.log2) < 4 * 2 ^ k.log2 * 2 ^ (51 - k.log2) :=
          Nat.mul_lt_mul_of_pos_right (by omega) (Nat.two_pow_pos _)
      _ = 2 ^ 53 := by rw [Nat.mul_assoc, hpower]; rfl
  have hmin : binary64.minExponent = -1074 := rfl
  refine ⟨(2 * k + 1) * 2 ^ (51 - k.log2),
    ⟨hlast, by omega, fun hlt => absurd hfirst hlt.asymm⟩, ?_, hfirst, ?_⟩
  · have hscale : (2 : ℚ) ^ (51 - k.log2) * 2 ^ ((k.log2 : Int) - 52) = 2 ^ (-1 : Int) := by
      rw [← zpow_natCast, ← zpow_add₀ two_ne_zero]
      congr 1
      omega
    rw [scaled, Nat.cast_mul, mul_assoc]
    push_cast
    rw [hscale]
    norm_num
    ring
  · have hdouble : 2 ^ (51 - k.log2) = 2 ^ (50 - k.log2) * 2 := by
      rw [← Nat.pow_succ]
      congr 1
      omega
    rw [hdouble, ← Nat.mul_assoc]
    exact Nat.mul_mod_left _ 2

/-- From half a last place below it on a number is rounded to a half or above. -/
theorem half_le_nearest_iff (hk : 0 < k) (hk' : k < 2 ^ 50) (hy : 0 < y) :
    (k + 1 / 2 : ℚ) ≤ binary64.nearest y ↔ k + 1 / 2 - 2 ^ ((Nat.log2 k : Int) - 53) ≤ y := by
  obtain ⟨m, hcanonical, hvalue, hfirst, heven⟩ := exists_canonical_half hk hk'
  have hhalf : (2 : ℚ) ^ ((Nat.log2 k : Int) - 53) = 2 ^ ((Nat.log2 k : Int) - 52) / 2 := by
    have hexponent : (Nat.log2 k : Int) - 53 = Nat.log2 k - 52 - 1 := by omega
    rw [hexponent, zpow_sub_one₀ two_ne_zero]
    rfl
  rw [← hvalue, hhalf]
  exact Format.scaled_le_nearest_iff hcanonical hfirst heven hy

theorem hundred_quotient_of_half (hu : 0 < u) (hhalf : 200 * n = (2 * k + 1) * u) :
    100 * (n / u : ℚ) = k + 1 / 2 := by
  have hpos : (0 : ℚ) < u := by exact_mod_cast hu
  have hcast : (200 * n : ℚ) = (2 * k + 1) * u := by exact_mod_cast hhalf
  rw [mul_div_assoc', div_eq_iff hpos.ne']
  linarith

theorem half_bounds (hlow : u ≤ n) (hhigh : n ≤ 1000 * u)
    (hhalf : 200 * n = (2 * k + 1) * u) (hu : 0 < u) : 100 ≤ k ∧ k < 100000 := by
  have hleast : 199 * u < (2 * k + 1) * u := by omega
  have hmost : (2 * k + 1) * u < 200001 * u := by omega
  have := Nat.lt_of_mul_lt_mul_right hleast
  have := Nat.lt_of_mul_lt_mul_right hmost
  omega

/-- The hundredths before they are whole lie between the two neighbours. -/
theorem abs_rawHundredths_sub_half_lt (hu : 0 < u) (hlow : u ≤ n) (hhigh : n ≤ 1000 * u)
    (hhalf : 200 * n = (2 * k + 1) * u) : |rawHundredths u n - (k + 1 / 2)| < 1 / 2 := by
  have herror := abs_rawHundredths_sub_le hu (Nat.cast_le.2 hlow)
  have hquotient := hundred_quotient_of_half hu hhalf
  have hk : (k : ℚ) < 100000 := by exact_mod_cast (half_bounds hlow hhigh hhalf hu).2
  rw [← hquotient]
  refine herror.trans_lt ?_
  linarith

/-- Whether the hundredths go up to the greater neighbour of a half. -/
theorem roundedHundredths_of_half (hu : 0 < u) (hlow : u ≤ n) (hhigh : n ≤ 1000 * u)
    (hhalf : 200 * n = (2 * k + 1) * u) :
    roundedHundredths u n =
      if (k : ℚ) + 1 / 2 - 100 * binary64.nearest (n / u) ≤ 2 ^ ((Nat.log2 k : Int) - 53)
      then k + 1 else k := by
  have hpos : (0 : ℚ) < u := by exact_mod_cast hu
  have hk := half_bounds hlow hhigh hhalf hu
  have hnearest : 1 ≤ binary64.nearest (n / u) :=
    Format.one_le_nearest ((one_le_div hpos).2 (Nat.cast_le.2 hlow))
  have hreach := half_le_nearest_iff (k := k) (y := binary64.nearest (n / u) * 100) (by omega)
    (by omega) (by linarith)
  rw [← rawHundredths] at hreach
  obtain ⟨hbelow, habove⟩ := abs_lt.1 (abs_rawHundredths_sub_half_lt hu hlow hhigh hhalf)
  by_cases hup : (k : ℚ) + 1 / 2 - 100 * binary64.nearest (n / u) ≤ 2 ^ ((Nat.log2 k : Int) - 53)
  · have hge : (k + 1 / 2 : ℚ) ≤ rawHundredths u n := hreach.2 (by linarith)
    rw [if_pos hup]
    refine nearestNat_up_eq rawHundredths_nonneg ?_ ?_
    · push_cast
      linarith
    · push_cast
      linarith
  · have hlt : rawHundredths u n < k + 1 / 2 := by
      rw [← not_le, hreach]
      intro hle
      exact hup (by linarith)
    rw [if_neg hup]
    exact nearestNat_up_eq rawHundredths_nonneg (by linarith) hlt

theorem quotient_number (h : 1000 < n) (h' : n ≤ 1000000000000) :
    (binary64.div (binary64.ofNat n) (binary64.ofNat (countUnit n))).number? =
      some (binary64.nearest (n / countUnit n)) := by
  obtain ⟨hu, hu', -, -⟩ := countUnit_spec h h'
  have hpos : (countUnit n : ℚ) ≠ 0 := by exact_mod_cast hu.ne'
  have hinside : (n / countUnit n : ℚ) ≤ 2 ^ (binary64.precision + (binary64.maxExponent - 1)) :=
    (div_le_self (Nat.cast_nonneg n) (by exact_mod_cast hu)).trans
      (natCast_le_of_lt (by omega) (by decide))
  have hdiv := Format.div_ofSize (f := binary64) (Format.ofNat_eq (h'.trans (by decide)))
    (Format.ofNat_eq (hu'.trans (by decide))) hpos hinside
  exact hdiv.number

/-- **The label of every counter at a half**: one of its two neighbours, the greater one exactly if
the quotient is not rounded down too far. -/
theorem scaleCount_of_half {n k : Nat} (h : 1000 < n) (h' : n ≤ 1000000000000)
    (hhalf : 200 * n = (2 * k + 1) * countUnit n) :
    ∃ q, (binary64.div (binary64.ofNat n) (binary64.ofNat (countUnit n))).number? = some q ∧
      Label.read (scaleCount n) = some
        ⟨((if (k : ℚ) + 1 / 2 - 100 * q ≤ 2 ^ ((Nat.log2 k : Int) - 53) then k + 1 else k : Nat)
          : ℚ) / 100, countUnit n⟩ := by
  obtain ⟨hu, -, hlow, hhigh⟩ := countUnit_spec h h'
  refine ⟨_, quotient_number h h', ?_⟩
  rw [read_scaleCount h h', roundedHundredths_of_half hu hlow.le hhigh hhalf]

/-- At `1005`, halfway between `1.00K` and `1.01K`, the quotient decides. -/
theorem scaleCount_of_half_1005 :
    ∃ q, (binary64.div (binary64.ofNat 1005) (binary64.ofNat (countUnit 1005))).number? = some q ∧
      Label.read (scaleCount 1005) = some
        ⟨((if ((100 : Nat) : ℚ) + 1 / 2 - 100 * q ≤ 2 ^ ((Nat.log2 100 : Int) - 53) then 100 + 1
          else 100 : Nat) : ℚ) / 100, countUnit 1005⟩ :=
  scaleCount_of_half (by decide) (by decide) rfl

/-- The greater neighbour of a half is shown whenever the quotient is not rounded down. -/
theorem scaleCount_of_half_up (h : 1000 < n) (h' : n ≤ 1000000000000)
    (hhalf : 200 * n = (2 * k + 1) * countUnit n)
    (hup : (n / countUnit n : ℚ) ≤ binary64.nearest (n / countUnit n)) :
    Label.read (scaleCount n) = some ⟨(k + 1 : Nat) / 100, countUnit n⟩ := by
  obtain ⟨hu, -, hlow, hhigh⟩ := countUnit_spec h h'
  have hquotient := hundred_quotient_of_half hu hhalf
  have hpower := two_zpow_pos ((Nat.log2 k : Int) - 53)
  rw [read_scaleCount h h', roundedHundredths_of_half hu hlow.le hhigh hhalf, if_pos]
  linarith

example : scaleCount 1125 = "1.13K" := by decide +kernel

/-- Some halves go down: the quotient `1.005` is rounded down in 64 bits, and so far that the
product stays below the half. -/
theorem not_all_halves_go_up : ¬ ∀ n k : Nat, 1000 < n → n ≤ 1000000000000 →
    200 * n = (2 * k + 1) * countUnit n →
      Label.read (scaleCount n) = some ⟨(k + 1 : Nat) / 100, countUnit n⟩ := by
  intro h
  have hlabel : Label.read (scaleCount 1005) = some ⟨1, 1000⟩ := by
    have htext : scaleCount 1005 = "1.00K" := by decide +kernel
    rw [htext]
    decide +kernel
  have hclaim := h 1005 100 (by decide) (by decide) rfl
  rw [hlabel, Option.some_inj] at hclaim
  have hnumeral : (1 : ℚ) = (100 + 1 : Nat) / 100 := congrArg Label.numeral hclaim
  norm_num at hnumeral

end ShaperDash
