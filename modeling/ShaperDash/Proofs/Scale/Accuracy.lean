import ShaperDash.Proofs.Scale.Labels

/-!
# Labels of counters are accurate

The three roundings before the hundredths are whole lose far less than lies between a number of
hundredths and the next half, unless the counter is exactly at a half.  So the hundredths are the
nearest ones to the counter, and the last rounding does not show.

* `abs_rawHundredths_sub_le` : what the division and the multiplication lose.
* `roundedHundredths_eq` : away from the halves, the hundredths are the nearest ones.
* `scaleCount_accurate` : **a label shows the nearest hundredth of its unit, and beyond a trillion
  it is off by half a hundredth and a trace of rounding at most.**
-/

namespace ShaperDash

variable {n k u : Nat} {x : ℚ} {letter : Char}

/-- The unit that a counter above a thousand is shown in. -/
def countUnit (n : Nat) : Nat :=
  if 1000000000000 < n then 1000000000000
  else if 1000000000 < n then 1000000000
  else if 1000000 < n then 1000000
  else 1000

theorem countUnit_spec (h : 1000 < n) (h' : n ≤ 1000000000000) :
    0 < countUnit n ∧ countUnit n ≤ 1000000000 ∧ countUnit n < n ∧ n ≤ 1000 * countUnit n := by
  unfold countUnit
  split_ifs <;> omega

theorem exists_bracket_eq (h : 1000 < n) (h' : n ≤ 1000000000000) :
    ∃ letter, bracket (n : ℚ) = some (countUnit n, letter) := by
  cases hb : bracket (n : ℚ) with
  | none =>
    have hle : n ≤ 1000 := by exact_mod_cast bracket_eq_none.1 hb
    omega
  | some unit =>
    obtain ⟨u, letter⟩ := unit
    obtain ⟨hmem, hlow, hhigh⟩ := bracket_spec hb
    have hlow' : u < n := by exact_mod_cast hlow
    have hhigh' : n ≤ 1000 * u ∨ u = 1000000000000 := by exact_mod_cast hhigh
    have hunits : ∀ u ∈ scaleUnits, u.1 = 1000 ∨ u.1 = 1000000 ∨ u.1 = 1000000000 ∨
        u.1 = 1000000000000 := by decide
    have hunit : u = 1000 ∨ u = 1000000 ∨ u = 1000000000 ∨ u = 1000000000000 := hunits _ hmem
    have heq : countUnit n = u := by
      unfold countUnit
      split_ifs <;> omega
    exact ⟨letter, by rw [heq]⟩

/-! ### Errors -/

/-- What the division and the multiplication lose. -/
theorem abs_rawHundredths_sub_le (hu : 0 < u) (h : u ≤ x) :
    |rawHundredths u x - 100 * (x / u)| ≤ 201 * (x / u) / 2 ^ 53 := by
  have hpos : (0 : ℚ) < u := by exact_mod_cast hu
  have hone : 1 ≤ x / u := (one_le_div hpos).2 h
  generalize hy : x / u = y at hone
  have hquotient := Format.abs_nearest_sub_le_of_one_le hone
  have hone' := Format.one_le_nearest hone
  have hproduct := Format.abs_nearest_sub_le_of_one_le (x := binary64.nearest y * 100) (by linarith)
  rw [rawHundredths, hy]
  generalize binary64.nearest y = q at hquotient hone' hproduct ⊢
  rw [abs_le] at hquotient hproduct ⊢
  constructor <;> linarith

/-! ### Away from the halves -/

/-- A counter that is not at a half is a part of a unit away from it. -/
theorem abs_sub_nearestNat_le (hu : 0 < u) (hhalf : ∀ k : Nat, 200 * n ≠ (2 * k + 1) * u) :
    |100 * (n / u : ℚ) - nearestNat .up (100 * (n / u : ℚ))| ≤ 1 / 2 - 1 / (2 * u) := by
  have hpos : (0 : ℚ) < u := by exact_mod_cast hu
  have hnear := abs_nearestNat_sub_le .up (x := 100 * (n / u : ℚ)) (by positivity)
  generalize nearestNat .up (100 * (n / u : ℚ)) = r at hnear
  have hn : (n : ℚ) = n / u * u := (div_mul_cancel₀ _ hpos.ne').symm
  generalize (n / u : ℚ) = y at hn hnear
  obtain ⟨hlow, hhigh⟩ := abs_le.1 hnear
  -- as natural numbers, so that being no half means being one away from it
  have hbelow : 200 * n + 1 ≤ (2 * r + 1) * u := by
    have hle : (200 * n : ℚ) ≤ (2 * r + 1) * u := by
      have := mul_le_mul_of_nonneg_right hlow hpos.le
      linarith
    have hle' : 200 * n ≤ (2 * r + 1) * u := by exact_mod_cast hle
    have := hhalf r
    omega
  have habove : 2 * r * u + 1 ≤ 200 * n + u := by
    have hle : (2 * r * u : ℚ) ≤ 200 * n + u := by
      have := mul_le_mul_of_nonneg_right hhigh hpos.le
      linarith
    have hle' : 2 * r * u ≤ 200 * n + u := by exact_mod_cast hle
    cases r with
    | zero => omega
    | succ k =>
      have hne := hhalf k
      have hsplit : 2 * (k + 1) * u = (2 * k + 1) * u + u := by ring
      omega
  have hbelow' : (200 * n + 1 : ℚ) ≤ (2 * r + 1) * u := by exact_mod_cast hbelow
  have habove' : (2 * r * u + 1 : ℚ) ≤ 200 * n + u := by exact_mod_cast habove
  have hcancel : 1 / (2 * u : ℚ) * (2 * u) = 1 := one_div_mul_cancel (by positivity)
  rw [abs_le]
  constructor
  · refine le_of_mul_le_mul_right ?_ (by positivity : (0 : ℚ) < 2 * u)
    linarith
  · refine le_of_mul_le_mul_right ?_ (by positivity : (0 : ℚ) < 2 * u)
    linarith

/-- Away from the halves the hundredths are the nearest ones. -/
theorem roundedHundredths_eq (hu : 0 < u) (hu' : u ≤ 1000000000) (hlow : u ≤ n)
    (hhigh : n ≤ 1000 * u) (hhalf : ∀ k : Nat, 200 * n ≠ (2 * k + 1) * u) :
    roundedHundredths u n = nearestNat .up (100 * (n / u : ℚ)) := by
  have hpos : (0 : ℚ) < u := by exact_mod_cast hu
  have hquotient : (n / u : ℚ) ≤ 1000 := by
    rw [div_le_iff₀ hpos]
    exact_mod_cast hhigh
  have herror := abs_rawHundredths_sub_le hu (Nat.cast_le.2 hlow)
  have hnear := abs_sub_nearestNat_le hu hhalf
  have hgap : 1 / (2 * 1000000000 : ℚ) ≤ 1 / (2 * u) :=
    one_div_le_one_div_of_le (by positivity) (by exact_mod_cast Nat.mul_le_mul_left 2 hu')
  have hloss : 201 * (n / u : ℚ) / 2 ^ 53 < 1 / (2 * 1000000000) :=
    (div_le_div_of_nonneg_right (mul_le_mul_of_nonneg_left hquotient (by norm_num))
      (by positivity)).trans_lt (by norm_num)
  refine nearestNat_eq_of_abs_lt .up Format.nearest_nonneg ?_
  calc |rawHundredths u n - nearestNat .up (100 * (n / u : ℚ))|
      ≤ |rawHundredths u n - 100 * (n / u)| +
          |100 * (n / u : ℚ) - nearestNat .up (100 * (n / u : ℚ))| := abs_sub_le _ _ _
    _ < 1 / 2 := by linarith

/-- A multiple that is less than half a step away is nearer than any other. -/
theorem abs_sub_lt_of_ne {y : ℚ} {r : Nat} (h : |100 * y - r| < 1 / 2) {j : Int} (hj : j ≠ r) :
    |y - r / 100| < |y - j / 100| := by
  obtain ⟨hlow, hhigh⟩ := abs_lt.1 h
  have hapart : (1 : ℚ) ≤ |(r : ℚ) - j| := by exact_mod_cast Int.one_le_abs (sub_ne_zero.2 hj.symm)
  have hnear : |y - r / 100| < 1 / 200 := abs_lt.2 ⟨by linarith, by linarith⟩
  refine hnear.trans (lt_abs.2 ?_)
  rcases le_abs.1 hapart with hle | hle
  · exact .inl (by linarith)
  · exact .inr (by linarith)

/-! ### The labels of counters -/

theorem natCast_le_of_lt {k : Int} (hn : n < 2 ^ 64) (hk : 64 ≤ k) : (n : ℚ) ≤ 2 ^ k :=
  calc (n : ℚ) ≤ 2 ^ (64 : Int) := by exact_mod_cast hn.le
    _ ≤ 2 ^ k := zpow_le_zpow_right₀ one_le_two hk

/-- Up to a trillion the label says the hundredths that the counter is rounded to. -/
theorem read_scaleCount (h : 1000 < n) (h' : n ≤ 1000000000000) :
    Label.read (scaleCount n) =
      some ⟨roundedHundredths (countUnit n) n / 100, countUnit n⟩ := by
  obtain ⟨letter, hb⟩ := exists_bracket_eq h h'
  obtain ⟨hu, -, hlow, hhigh⟩ := countUnit_spec h h'
  have hrange := bracket_range hb (natCast_le_of_lt (by omega) (by decide))
  have hshown := shownHundredths_eq_of_le hu (Nat.cast_le.2 hlow.le)
    (by exact_mod_cast hhigh : (n : ℚ) ≤ 1000 * countUnit n)
  rw [scaleCount, read_scaleNumber (Format.ofNat_eq (h'.trans (by decide))) hb hrange, hshown]

/-- Beyond a trillion the label is off by half a hundredth and a trace of rounding at most. -/
theorem read_scaleCount_of_trillion (h : 1000000000000 < n) (h' : n < 2 ^ 64) :
    ∃ q, Label.read (scaleCount n) = some ⟨q, 1000000000000⟩ ∧
      |q - n / 1000000000000| ≤ 500001 / 100000000 := by
  have hn : (n : ℚ) ≤ 2 ^ 64 := by exact_mod_cast h'.le
  have habove : (1000000000001 : ℚ) ≤ n := by exact_mod_cast h
  -- the counter as a number of the format
  have hsize := Format.ofNat_ofSize (f := binary64) (natCast_le_of_lt h' (by decide))
  have herror := Format.abs_nearest_sub_le_of_one_le (x := (n : ℚ)) (by linarith)
  have hx : (1000000000001 : ℚ) ≤ binary64.nearest n :=
    Format.le_nearest (Nat.cast_nonneg n)
      (by exact_mod_cast Format.hasNumber_natCast (n := 1000000000001) (by decide)) habove
  have hend : binary64.nearest n ≤ 2 ^ (64 : Int) :=
    Format.nearest_le_two_zpow (Nat.cast_nonneg n) (by decide) (natCast_le_of_lt h' le_rfl)
  have hb := bracket_eq_last (x := binary64.nearest n) (by linarith)
  have hrange := bracket_range hb (hend.trans (zpow_le_zpow_right₀ one_le_two (by decide)))
  have hend' : binary64.nearest n ≤ 2 ^ 64 := by exact_mod_cast hend
  have hread := read_scaleNumber hsize hb hrange
  generalize binary64.nearest n = x at hsize herror hx hend' hb hrange hread
  -- the hundredths of that number
  have hraw := abs_rawHundredths_sub_le (u := 1000000000000) (x := x) (by decide)
    (by rw [Nat.cast_ofNat]; linarith)
  have hnear := abs_nearestNat_sub_le .up (x := rawHundredths 1000000000000 x)
    Format.nearest_nonneg
  have hlow : 100 ≤ roundedHundredths 1000000000000 x :=
    hundred_le_roundedHundredths (by decide) (by rw [Nat.cast_ofNat]; linarith)
  rw [← roundedHundredths] at hnear
  rw [Nat.cast_ofNat] at hraw
  rw [abs_le] at herror hraw hnear
  have hhigh : roundedHundredths 1000000000000 x ≤ 2 ^ 51 := by
    have hle : (roundedHundredths 1000000000000 x : ℚ) ≤ 2 ^ 51 := by linarith
    exact_mod_cast hle
  rw [shownHundredths_eq hlow hhigh] at hread
  refine ⟨_, hread, ?_⟩
  rw [abs_le]
  constructor <;> linarith

/-- **Labels of counters are accurate.**  Up to a trillion a counter that is not halfway between
two hundredths of its unit is shown as the nearest hundredth; beyond a trillion the label is off by
half a hundredth and a trace of rounding at most. -/
theorem scaleCount_accurate (n : Nat) :
    (1000 < n → n ≤ 1000000000000 → (∀ k : Nat, 200 * n ≠ (2 * k + 1) * countUnit n) →
      ∃ r : Nat, Label.read (scaleCount n) = some ⟨r / 100, countUnit n⟩ ∧
        ∀ j : Int, j ≠ r → |(n / countUnit n : ℚ) - r / 100| < |(n / countUnit n : ℚ) - j / 100|) ∧
    (1000000000000 < n → n < 2 ^ 64 →
      ∃ q, Label.read (scaleCount n) = some ⟨q, 1000000000000⟩ ∧
        |q - n / 1000000000000| ≤ 500001 / 100000000) := by
  refine ⟨?_, read_scaleCount_of_trillion⟩
  intro h h' hhalf
  obtain ⟨hu, hu', hlow, hhigh⟩ := countUnit_spec h h'
  have hread := read_scaleCount h h'
  rw [roundedHundredths_eq hu hu' hlow.le hhigh hhalf] at hread
  refine ⟨_, hread, ?_⟩
  intro j hj
  refine abs_sub_lt_of_ne ?_ hj
  refine (abs_sub_nearestNat_le hu hhalf).trans_lt (sub_lt_self _ ?_)
  have hpos : (0 : ℚ) < countUnit n := by exact_mod_cast hu
  positivity

/-- A counter just below a million is shown as the nearest hundredth of a thousand; the greatest
counter of all is off by half a hundredth of a trillion at most. -/
theorem scaleCount_accurate_extremes :
    (∃ r : Nat, Label.read (scaleCount 999999) = some ⟨r / 100, countUnit 999999⟩ ∧
      ∀ j : Int, j ≠ r → |((999999 : Nat) / countUnit 999999 : ℚ) - r / 100| <
        |((999999 : Nat) / countUnit 999999 : ℚ) - j / 100|) ∧
    ∃ q, Label.read (scaleCount 18446744073709551615) = some ⟨q, 1000000000000⟩ ∧
      |q - (18446744073709551615 : Nat) / 1000000000000| ≤ 500001 / 100000000 := by
  refine ⟨(scaleCount_accurate 999999).1 (by decide) (by decide) ?_,
    (scaleCount_accurate 18446744073709551615).2 (by decide) (by decide)⟩
  intro k
  have hunit : countUnit 999999 = 1000 := rfl
  rw [hunit]
  omega

end ShaperDash
