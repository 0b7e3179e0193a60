import Mathlib.Algebra.Order.Field.Basic
import Mathlib.Algebra.Order.Field.Rat
import Mathlib.Data.Int.Log
import Mathlib.Data.Rat.Floor
import Mathlib.Tactic.Linarith
import Mathlib.Tactic.Positivity
import Mathlib.Tactic.Ring
import Mathlib.Tactic.SplitIfs
import ShaperDash.Number.Binary

/-!
# The nearest number of a format

A format is a set of rational numbers, closer together near zero and without end upwards (the
greatest number is a matter of the data, not of the numbers).  Rounding to the nearest of them is a
function of rational numbers, made of rounding to the nearest natural number in the last place that
the format has for a number.

* `nearestNat_le_iff` : where the nearest natural number passes from one to the next.
* `roundDiv_eq` : a rounded quotient depends on the value of the quotient alone.
* `Format.nearest_le`, `Format.le_nearest` : a number of the format is a bound that rounding keeps.
* `Format.nearest_mono` : **rounding keeps the order.**
* `Format.abs_nearest_sub_le_div` : the relative error of one rounding.
-/

namespace ShaperDash

/-! ### The nearest natural number -/

/-- The value halfway between `k` and `k + 1` goes down to `k`. -/
def Tie.Lowers : Tie → Nat → Prop
  | .up, _ => False
  | .even, k => k % 2 = 0

variable (tie : Tie) {num den k n : Nat} {x y c : ℚ}

/-- A quotient is rounded to one of its two neighbours. -/
theorem roundDiv_bounds (num den : Nat) :
    num / den ≤ roundDiv tie num den ∧ roundDiv tie num den ≤ num / den + 1 := by
  have hparity := Nat.mod_two_eq_zero_or_one (num / den)
  simp only [roundDiv]
  cases tie <;> dsimp only <;> split_ifs <;> omega

theorem roundDiv_le_iff (hden : 0 < den) :
    roundDiv tie num den ≤ k ↔
      2 * num < (2 * k + 1) * den ∨ 2 * num = (2 * k + 1) * den ∧ tie.Lowers k := by
  have hnum := Nat.div_add_mod num den
  have hmod := Nat.mod_lt num hden
  have hstep := roundDiv_bounds tie num den
  rw [Nat.add_mul, Nat.one_mul, Nat.mul_right_comm, Nat.mul_assoc]
  rcases lt_trichotomy (num / den) k with hlt | heq | hgt
  · have hfar : den * (num / den + 1) ≤ den * k := Nat.mul_le_mul_left den hlt
    rw [Nat.mul_add, Nat.mul_one] at hfar
    exact iff_of_true (by omega) (.inl (by omega))
  · -- the quotient cut off is `k`: it is the remainder that decides
    rw [heq] at hnum
    simp only [roundDiv, heq]
    cases tie <;> simp only [Tie.Lowers, and_false, or_false] <;> split_ifs <;> omega
  · have hfar : den * (k + 1) ≤ den * (num / den) := Nat.mul_le_mul_left den hgt
    rw [Nat.mul_add, Nat.mul_one] at hfar
    refine iff_of_false (by omega) ?_
    rintro (h | ⟨h, -⟩) <;> omega

/-- The natural number nearest to a rational number that is not negative. -/
def nearestNat (tie : Tie) (x : ℚ) : Nat := roundDiv tie x.num.toNat x.den

theorem quotient_lt_iff (hden : 0 < den) :
    (num / den : ℚ) < k + 1 / 2 ↔ 2 * num < (2 * k + 1) * den := by
  have hden' : (0 : ℚ) < den := by exact_mod_cast hden
  rw [div_lt_iff₀ hden', ← Nat.cast_lt (α := ℚ)]
  push_cast
  constructor <;> intro h <;> linarith

theorem quotient_eq_iff (hden : 0 < den) :
    (num / den : ℚ) = k + 1 / 2 ↔ 2 * num = (2 * k + 1) * den := by
  have hden' : (den : ℚ) ≠ 0 := by exact_mod_cast hden.ne'
  rw [div_eq_iff hden', ← Nat.cast_inj (R := ℚ)]
  push_cast
  constructor <;> intro h <;> linarith

theorem toNat_num_div_den (hx : 0 ≤ x) : (x.num.toNat / x.den : ℚ) = x := by
  have hnum : ((x.num.toNat : Nat) : ℚ) = x.num := by
    exact_mod_cast Int.toNat_of_nonneg (Rat.num_nonneg.2 hx)
  rw [hnum, Rat.num_div_den]

theorem nearestNat_le_iff (hx : 0 ≤ x) :
    nearestNat tie x ≤ k ↔ x < k + 1 / 2 ∨ x = k + 1 / 2 ∧ tie.Lowers k := by
  rw [nearestNat, roundDiv_le_iff tie x.den_pos, ← quotient_lt_iff x.den_pos,
    ← quotient_eq_iff x.den_pos, toNat_num_div_den hx]

/-- Rounding a quotient depends on its value alone. -/
theorem roundDiv_eq (hden : 0 < den) : roundDiv tie num den = nearestNat tie (num / den) := by
  refine eq_of_forall_ge_iff fun k => ?_
  rw [roundDiv_le_iff tie hden, nearestNat_le_iff tie (by positivity), quotient_lt_iff hden,
    quotient_eq_iff hden]

theorem nearestNat_mono (hx : 0 ≤ x) (h : x ≤ y) : nearestNat tie x ≤ nearestNat tie y := by
  rw [nearestNat_le_iff tie hx]
  rcases (nearestNat_le_iff tie (hx.trans h)).1 le_rfl with hy | ⟨hy, htie⟩
  · exact .inl (h.trans_lt hy)
  · rcases h.lt_or_eq with hlt | heq
    · exact .inl (hlt.trans_eq hy)
    · exact .inr ⟨heq.trans hy, htie⟩

/-- The nearest natural number is at most half away. -/
theorem abs_nearestNat_sub_le (hx : 0 ≤ x) : |(nearestNat tie x : ℚ) - x| ≤ 1 / 2 := by
  have hupper : x ≤ nearestNat tie x + 1 / 2 := by
    rcases (nearestNat_le_iff tie hx).1 le_rfl with h | ⟨h, -⟩
    · exact h.le
    · exact h.le
  have hlower : (nearestNat tie x : ℚ) ≤ x + 1 / 2 := by
    cases hn : nearestNat tie x with
    | zero => exact_mod_cast by positivity
    | succ k =>
      have hk : ¬ nearestNat tie x ≤ k := by omega
      rw [nearestNat_le_iff tie hx, not_or, not_lt] at hk
      push_cast
      linarith [hk.1]
  rw [abs_le]
  constructor <;> linarith

theorem nearestNat_eq_of_abs_lt (hx : 0 ≤ x) (h : |x - k| < 1 / 2) : nearestNat tie x = k := by
  have hnear := abs_le.1 (abs_nearestNat_sub_le tie hx)
  obtain ⟨hlow, hhigh⟩ := abs_lt.1 h
  have hbelow : (nearestNat tie x : ℚ) < k + 1 := by linarith
  have habove : (k : ℚ) < nearestNat tie x + 1 := by linarith
  have hbelow' : nearestNat tie x < k + 1 := by exact_mod_cast hbelow
  have habove' : k < nearestNat tie x + 1 := by exact_mod_cast habove
  omega

/-- The multiple of `c` nearest to a number is at most half of `c` away. -/
theorem abs_nearestNat_mul_sub_le (hx : 0 ≤ x) (hc : 0 < c) :
    |nearestNat tie (x / c) * c - x| ≤ c / 2 := by
  have hnear := abs_nearestNat_sub_le tie (div_nonneg hx hc.le)
  have hdiff : nearestNat tie (x / c) * c - x = (nearestNat tie (x / c) - x / c) * c := by
    rw [sub_mul, div_mul_cancel₀ _ hc.ne']
  rw [hdiff, abs_mul, abs_of_pos hc]
  linarith [mul_le_mul_of_nonneg_right hnear hc.le]

theorem nearestNat_up_eq (hx : 0 ≤ x) (hlow : (n : ℚ) - 1 / 2 ≤ x) (hhigh : x < n + 1 / 2) :
    nearestNat .up x = n := by
  refine le_antisymm ?_ ?_
  · rw [nearestNat_le_iff .up hx]
    exact .inl hhigh
  · cases n with
    | zero => exact Nat.zero_le _
    | succ k =>
      push_cast at hlow
      rw [Nat.succ_le_iff, ← not_le, nearestNat_le_iff .up hx]
      rintro (hlt | ⟨-, hlowers⟩)
      · linarith
      · exact hlowers

theorem nearestNat_even_eq (hx : 0 ≤ x)
    (h : |x - n| < 1 / 2 ∨ |x - n| = 1 / 2 ∧ n % 2 = 0) : nearestNat .even x = n := by
  rcases h with h | ⟨h, heven⟩
  · exact nearestNat_eq_of_abs_lt .even hx h
  · have hlow : (n : ℚ) - 1 / 2 ≤ x := by linarith [neg_abs_le (x - n)]
    have hhigh : x ≤ n + 1 / 2 := by linarith [le_abs_self (x - n)]
    refine le_antisymm ?_ ?_
    · rw [nearestNat_le_iff .even hx]
      exact hhigh.lt_or_eq.imp_right fun heq => ⟨heq, heven⟩
    · cases n with
      | zero => exact Nat.zero_le _
      | succ k =>
        push_cast at hlow
        rw [Nat.succ_le_iff, ← not_le, nearestNat_le_iff .even hx]
        rintro (hlt | ⟨-, heven'⟩)
        · linarith
        · simp only [Tie.Lowers] at heven'
          omega

/-- The nearest natural number is less than half away, or it is even. -/
theorem nearestNat_even_spec (hx : 0 ≤ x) :
    |x - nearestNat .even x| < 1 / 2 ∨
      |x - nearestNat .even x| = 1 / 2 ∧ nearestNat .even x % 2 = 0 := by
  have hnear := abs_nearestNat_sub_le .even hx
  rw [abs_sub_comm] at hnear
  refine hnear.lt_or_eq.imp_right fun heq => ⟨heq, ?_⟩
  rcases (abs_eq (by norm_num)).1 heq with hup | hdown
  · -- the number lies above, so that it goes down to an even one
    rcases (nearestNat_le_iff .even hx).1 le_rfl with hlt | ⟨-, heven⟩
    · linarith
    · exact heven
  · cases hn : nearestNat .even x with
    | zero => rfl
    | succ k =>
      have hk : ¬ nearestNat .even x ≤ k := by omega
      rw [nearestNat_le_iff .even hx, not_or] at hk
      rw [hn] at hdown
      push_cast at hdown
      have hodd : ¬ k % 2 = 0 := fun heven => hk.2 ⟨by linarith, heven⟩
      omega

theorem nearestNat_natCast (n : Nat) : nearestNat tie (n : ℚ) = n :=
  nearestNat_eq_of_abs_lt tie (Nat.cast_nonneg n) (by simp)

/-! ### The nearest number of a format -/

/-- The rational number `m * 2 ^ e`. -/
def scaled (m : Nat) (e : Int) : ℚ := m * 2 ^ e

theorem scaled_nonneg (m : Nat) (e : Int) : 0 ≤ scaled m e :=
  mul_nonneg (Nat.cast_nonneg m) (zpow_nonneg zero_le_two e)

theorem two_zpow_pos (e : Int) : (0 : ℚ) < 2 ^ e := zpow_pos two_pos e

theorem scaled_pow (n : Nat) (e : Int) : scaled (2 ^ n) e = 2 ^ (n + e) := by
  rw [scaled, zpow_add₀ two_ne_zero, zpow_natCast]
  push_cast
  rfl

/-- A number with an exponent above `e` is a whole multiple of `2 ^ e`. -/
theorem scaled_eq_of_le {m : Nat} {e d : Int} (h : e ≤ d) :
    scaled m d = (m * 2 ^ (d - e).toNat : Nat) * 2 ^ e := by
  have hd : d = ((d - e).toNat : Int) + e := by omega
  conv_lhs => rw [scaled, hd, zpow_add₀ two_ne_zero, zpow_natCast, ← mul_assoc]
  push_cast
  rfl

namespace Format

variable (f : Format)

/-- The exponent of the last place that the format has for `x`. -/
def place (x : ℚ) : Int := max f.minExponent (Int.log 2 x - ((f.precision : Int) - 1))

/-- The number nearest to `x` among those of the format, ties to the even significand; numbers have
no upper end here. -/
def nearest (x : ℚ) : ℚ := nearestNat .even (x / 2 ^ f.place x) * 2 ^ f.place x

/-- `c` is a number of the format, if that had no upper end. -/
def HasNumber (c : ℚ) : Prop :=
  ∃ m e, m < 2 ^ f.precision ∧ f.minExponent ≤ e ∧ scaled m e = c

/-- The format has numbers: a significand of at least one bit, and an exponent. -/
class Regular : Prop where
  precision_pos : 0 < f.precision
  minExponent_le : f.minExponent ≤ f.maxExponent

instance : Regular binary64 := ⟨by decide, by decide⟩

theorem minExponent_le_place (x : ℚ) : f.minExponent ≤ f.place x := le_max_left ..

variable {f}

theorem two_zpow_log_le (hx : 0 < x) : (2 : ℚ) ^ Int.log 2 x ≤ x := by
  exact_mod_cast Int.zpow_log_le_self (b := 2) one_lt_two hx

theorem le_log_iff {k : Int} (hx : 0 < x) : k ≤ Int.log 2 x ↔ (2 : ℚ) ^ k ≤ x := by
  rw [← Int.zpow_le_iff_le_log (b := 2) one_lt_two hx]
  push_cast
  rfl

theorem log_lt_iff {k : Int} (hx : 0 < x) : Int.log 2 x < k ↔ x < (2 : ℚ) ^ k := by
  rw [← Int.lt_zpow_iff_log_lt (b := 2) one_lt_two hx]
  push_cast
  rfl

theorem place_mono (hx : 0 < x) (h : x ≤ y) : f.place x ≤ f.place y := by
  have := Int.log_mono_right (b := 2) hx h
  simp only [place]
  omega

/-- Where a place is not the last one of all, the number reaches its significand's first bit. -/
theorem le_of_lt_place {e : Int} (hx : 0 < x) (he : f.minExponent ≤ e) (h : e < f.place x) :
    (2 : ℚ) ^ (f.precision + e) ≤ x := by
  rw [← le_log_iff hx]
  simp only [place] at h
  omega

theorem lt_of_place_le {e : Int} (hx : 0 < x) (h : f.place x ≤ e) :
    x < (2 : ℚ) ^ (f.precision + e) := by
  rw [← log_lt_iff hx]
  simp only [place] at h
  omega

/-- The number whose significand is the first bit alone. -/
theorem scaled_firstBit [f.Regular] (e : Int) :
    scaled (2 ^ (f.precision - 1)) e = 2 ^ (f.precision + (e - 1)) := by
  have hp : 0 < f.precision := Regular.precision_pos
  rw [scaled_pow]
  congr 1
  omega

theorem nearest_nonneg : 0 ≤ f.nearest x :=
  mul_nonneg (Nat.cast_nonneg _) (two_zpow_pos _).le

@[simp] theorem nearest_zero : f.nearest 0 = 0 := by
  simp [nearest, nearestNat, roundDiv]

/-- Rounding in the place of `x` keeps the multiples of that place as bounds. -/
theorem nearest_le_mul (hx : 0 ≤ x) (h : x ≤ n * 2 ^ f.place x) :
    f.nearest x ≤ n * 2 ^ f.place x := by
  have hscale := two_zpow_pos (f.place x)
  have hquotient : x / 2 ^ f.place x ≤ n := (div_le_iff₀ hscale).2 h
  have hmono := nearestNat_mono .even (div_nonneg hx hscale.le) hquotient
  rw [nearestNat_natCast] at hmono
  exact mul_le_mul_of_nonneg_right (by exact_mod_cast hmono) hscale.le

theorem mul_le_nearest (h : n * 2 ^ f.place x ≤ x) :
    n * 2 ^ f.place x ≤ f.nearest x := by
  have hscale := two_zpow_pos (f.place x)
  have hquotient : (n : ℚ) ≤ x / 2 ^ f.place x := (le_div_iff₀ hscale).2 h
  have hmono := nearestNat_mono .even (Nat.cast_nonneg n) hquotient
  rw [nearestNat_natCast] at hmono
  exact mul_le_mul_of_nonneg_right (by exact_mod_cast hmono) hscale.le

/-- A number of the format is a multiple of the place of every number that is not above it. -/
theorem exists_mul_of_le (hx : 0 < x) (hc : f.HasNumber c) (h : x ≤ c) :
    ∃ n : Nat, c = n * 2 ^ f.place x := by
  obtain ⟨m, e, hm, he, rfl⟩ := hc
  refine ⟨_, scaled_eq_of_le (not_lt.1 fun hplace => ?_)⟩
  have hfirst : (2 : ℚ) ^ (f.precision + e) ≤ x := le_of_lt_place hx he hplace
  have hlast : scaled m e < 2 ^ (f.precision + e) := by
    rw [← scaled_pow]
    exact mul_lt_mul_of_pos_right (by exact_mod_cast hm) (two_zpow_pos e)
  exact absurd (hfirst.trans h) (not_le.2 hlast)

/-- **A number of the format that is at least `x` is so after rounding.** -/
theorem nearest_le (hx : 0 ≤ x) (hc : f.HasNumber c) (h : x ≤ c) : f.nearest x ≤ c := by
  rcases hx.lt_or_eq with hpos | rfl
  · obtain ⟨n, rfl⟩ := exists_mul_of_le hpos hc h
    exact nearest_le_mul hx h
  · rwa [nearest_zero]

/-- Some multiple of the place of `x` lies between `x` and a number of the format below it. -/
theorem exists_mul_between [f.Regular] (hx : 0 < x) (hc : f.HasNumber c) (h : c ≤ x) :
    ∃ n : Nat, c ≤ n * 2 ^ f.place x ∧ n * 2 ^ f.place x ≤ x := by
  obtain ⟨m, e, hm, he, rfl⟩ := hc
  by_cases hplace : f.place x ≤ e
  · rw [scaled_eq_of_le hplace] at h ⊢
    exact ⟨_, le_refl _, h⟩
  · -- the number whose significand is the first bit alone lies between
    refine ⟨2 ^ (f.precision - 1), ?_, ?_⟩
    · calc scaled m e ≤ 2 ^ (f.precision + e) := by
            rw [← scaled_pow]
            exact mul_le_mul_of_nonneg_right (by exact_mod_cast hm.le) (two_zpow_pos e).le
        _ ≤ 2 ^ (f.precision + (f.place x - 1)) := zpow_le_zpow_right₀ one_le_two (by omega)
        _ = scaled (2 ^ (f.precision - 1)) (f.place x) := (scaled_firstBit _).symm
    · refine (scaled_firstBit (f.place x)).trans_le ?_
      exact le_of_lt_place hx (by omega) (by omega)

/-- **A number of the format that is at most `x` is so after rounding.** -/
theorem le_nearest [f.Regular] (hx : 0 ≤ x) (hc : f.HasNumber c) (h : c ≤ x) :
    c ≤ f.nearest x := by
  rcases hx.lt_or_eq with hpos | rfl
  · obtain ⟨n, hlow, hhigh⟩ := exists_mul_between hpos hc h
    exact hlow.trans (mul_le_nearest hhigh)
  · rwa [nearest_zero]

theorem nearest_eq [f.Regular] (hx : 0 ≤ x) (h : f.HasNumber x) : f.nearest x = x :=
  le_antisymm (nearest_le hx h le_rfl) (le_nearest hx h le_rfl)

/-- **Rounding keeps the order.** -/
theorem nearest_mono [f.Regular] (hx : 0 ≤ x) (h : x ≤ y) : f.nearest x ≤ f.nearest y := by
  rcases hx.lt_or_eq with hpos | rfl
  · rcases (place_mono (f := f) hpos h).lt_or_eq with hlt | heq
    · -- the first number with the place of `y` separates the two
      have hp : 0 < f.precision := Regular.precision_pos
      have hmin := f.minExponent_le_place x
      have hfirst := scaled_firstBit (f := f) (f.place y)
      have hnumber : f.HasNumber (2 ^ (f.precision + (f.place y - 1))) :=
        ⟨_, _, Nat.pow_lt_pow_right one_lt_two (by omega), f.minExponent_le_place y, hfirst⟩
      have hbelow : x ≤ 2 ^ (f.precision + (f.place y - 1)) :=
        (lt_of_place_le hpos (by omega)).le
      have habove : (2 : ℚ) ^ (f.precision + (f.place y - 1)) ≤ y :=
        le_of_lt_place (hpos.trans_le h) (by omega) (by omega)
      exact (nearest_le hx hnumber hbelow).trans (le_nearest (hx.trans h) hnumber habove)
    · have hscale := two_zpow_pos (f.place y)
      have hquotient := nearestNat_mono .even (div_nonneg hx hscale.le)
        (div_le_div_of_nonneg_right h hscale.le)
      rw [nearest, nearest, heq]
      exact mul_le_mul_of_nonneg_right (by exact_mod_cast hquotient) hscale.le
  · rw [nearest_zero]
    exact nearest_nonneg

/-- What is nearest in the place of `x`, or as near as another number and even, is nearest. -/
theorem nearest_eq_scaled {m : Nat} {e : Int} (hx : 0 ≤ x) (hplace : f.place x = e)
    (h : |x - scaled m e| < 2 ^ e / 2 ∨ |x - scaled m e| = 2 ^ e / 2 ∧ m % 2 = 0) :
    f.nearest x = scaled m e := by
  subst hplace
  have hscale := two_zpow_pos (f.place x)
  have hdiff : |x / 2 ^ f.place x - m| = |x - scaled m (f.place x)| / 2 ^ f.place x := by
    rw [← abs_of_pos hscale, ← abs_div, sub_div, scaled, abs_of_pos hscale,
      mul_div_cancel_right₀ _ hscale.ne']
  have hsignificand : nearestNat .even (x / 2 ^ f.place x) = m := by
    refine nearestNat_even_eq (div_nonneg hx hscale.le) ?_
    rwa [hdiff, div_lt_iff₀ hscale, div_eq_iff hscale.ne', one_div_mul_eq_div]
  rw [nearest, hsignificand, scaled]

theorem abs_nearest_sub_le (hx : 0 ≤ x) : |f.nearest x - x| ≤ 2 ^ f.place x / 2 :=
  abs_nearestNat_mul_sub_le .even hx (two_zpow_pos _)

/-- **The relative error** of a number that is not too close to zero. -/
theorem abs_nearest_sub_le_div (hx : 2 ^ (f.minExponent + (f.precision - 1)) ≤ x) :
    |f.nearest x - x| ≤ x / 2 ^ f.precision := by
  have hpos : 0 < x := (two_zpow_pos _).trans_le hx
  have hlog : f.minExponent + (f.precision - 1) ≤ Int.log 2 x := (le_log_iff hpos).2 hx
  have hplace : f.place x = Int.log 2 x + 1 - f.precision := by
    simp only [place]
    omega
  refine (abs_nearest_sub_le hpos.le).trans ?_
  rw [hplace, zpow_sub₀ two_ne_zero, zpow_add_one₀ two_ne_zero, zpow_natCast, div_right_comm,
    mul_div_cancel_right₀ _ two_ne_zero]
  exact div_le_div_of_nonneg_right (two_zpow_log_le hpos) (by positivity)

end Format

end ShaperDash
