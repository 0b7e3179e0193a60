import Mathlib.Algebra.Order.Floor.Semifield
import Mathlib.Tactic.NormNum
import ShaperDash.Number.Decimal
import ShaperDash.Proofs.Number.Nearest

/-!
# Data as rational numbers

Every operation on data is the operation on rational numbers, followed by one rounding to the
nearest number of the format.

* `Format.leadingExponent_eq` : the leading exponent of a quotient is its binary logarithm.
* `Format.round_ofSize` : **a quotient is rounded to the number nearest to it.**
* `Format.ofNat_ofSize`, `Format.mul_ofSize`, `Format.div_ofSize`,
  `Datum.roundToInteger_ofSize`, `Datum.truncate_ofSize` : the operations, one by one.
-/

namespace ShaperDash

variable (tie : Tie) {num den n : Nat} {x y : ℚ}

theorem zpow_eq_div (b : Nat) (e : Int) :
    (b : ℚ) ^ e = (Nat.pow b e.toNat : Nat) / (Nat.pow b (-e).toNat : Nat) := by
  obtain ⟨n, rfl | rfl⟩ := e.eq_nat_or_neg
  · simp
  · simp

theorem two_zpow_eq (e : Int) :
    (2 : ℚ) ^ e = (Nat.pow 2 e.toNat : Nat) / (Nat.pow 2 (-e).toNat : Nat) := by
  exact_mod_cast zpow_eq_div 2 e

/-- The multiple of a power of `b` that a quotient is rounded to. -/
theorem roundDiv_zpow {b : Nat} (hb : 0 < b) (hden : 0 < den) (n : Nat) (e : Int) :
    roundDiv tie (n * Nat.pow b (-e).toNat) (den * Nat.pow b e.toNat) =
      nearestNat tie (n / den / (b : ℚ) ^ e) := by
  have hden' : 0 < den * Nat.pow b e.toNat := Nat.mul_pos hden (Nat.pow_pos hb)
  rw [roundDiv_eq tie hden', zpow_eq_div, div_div_div_eq]
  push_cast
  rfl

variable {s t : Bool} {m : Nat} {e : Int} {d d' : Datum}

/-- The datum is the number `±x`. -/
def Datum.OfSize (d : Datum) (s : Bool) (x : ℚ) : Prop :=
  ∃ m e, d = .finite s m e ∧ scaled m e = x

/-- The number that a datum is, if it is one. -/
def Datum.number? : Datum → Option ℚ
  | .finite s m e => some (signed s m * 2 ^ e)
  | _ => none

theorem Datum.number_finite :
    (finite s m e).number? = some (if s then -scaled m e else scaled m e) := by
  cases s <;> simp [number?, signed, scaled]

theorem Datum.OfSize.number (h : d.OfSize s x) : d.number? = some (if s then -x else x) := by
  obtain ⟨m, e, rfl, rfl⟩ := h
  exact number_finite

/-- A datum that is a number is one of some sign and size. -/
theorem Datum.eq_finite (h : d.number? = some x) :
    ∃ s m e, d = finite s m e ∧ x = if s then -scaled m e else scaled m e := by
  cases d with
  | nan => simp [number?] at h
  | infinite s => simp [number?] at h
  | finite s m e =>
    rw [number_finite, Option.some_inj] at h
    exact ⟨s, m, e, rfl, h.symm⟩

namespace Format

variable {f : Format}

/-- The binary logarithms of numerator and denominator tell the quotient to one power of two. -/
theorem two_zpow_log2_sub_le (hnum : 0 < num) (hden : 0 < den) :
    (2 : ℚ) ^ ((num.log2 : Int) - den.log2 - 1) ≤ num / den := by
  have hden' : (0 : ℚ) < den := by exact_mod_cast hden
  have hnumLow : (2 : ℚ) ^ (num.log2 : Int) ≤ num := by
    exact_mod_cast Nat.log2_self_le hnum.ne'
  have hdenHigh : (den : ℚ) ≤ 2 ^ ((den.log2 : Int) + 1) := by
    exact_mod_cast Nat.lt_log2_self.le
  rw [le_div_iff₀ hden']
  calc (2 : ℚ) ^ ((num.log2 : Int) - den.log2 - 1) * den
      ≤ 2 ^ ((num.log2 : Int) - den.log2 - 1) * 2 ^ ((den.log2 : Int) + 1) :=
        mul_le_mul_of_nonneg_left hdenHigh (two_zpow_pos _).le
    _ = 2 ^ (num.log2 : Int) := by
      rw [← zpow_add₀ two_ne_zero]
      congr 1
      ring
    _ ≤ num := hnumLow

theorem lt_two_zpow_log2_sub (hden : 0 < den) :
    (num / den : ℚ) < 2 ^ ((num.log2 : Int) - den.log2 + 1) := by
  have hden' : (0 : ℚ) < den := by exact_mod_cast hden
  have hnumHigh : (num : ℚ) < 2 ^ ((num.log2 : Int) + 1) := by
    exact_mod_cast Nat.lt_log2_self
  have hdenLow : (2 : ℚ) ^ (den.log2 : Int) ≤ den := by
    exact_mod_cast Nat.log2_self_le hden.ne'
  rw [div_lt_iff₀ hden']
  calc (num : ℚ) < 2 ^ ((num.log2 : Int) + 1) := hnumHigh
    _ = 2 ^ ((num.log2 : Int) - den.log2 + 1) * 2 ^ (den.log2 : Int) := by
      rw [← zpow_add₀ two_ne_zero]
      congr 1
      ring
    _ ≤ 2 ^ ((num.log2 : Int) - den.log2 + 1) * den :=
        mul_le_mul_of_nonneg_left hdenLow (two_zpow_pos _).le

theorem leadingExponent_eq (hnum : 0 < num) (hden : 0 < den) :
    leadingExponent num den = Int.log 2 (num / den : ℚ) := by
  have hden' : (0 : ℚ) < den := by exact_mod_cast hden
  have hx : (0 : ℚ) < num / den := div_pos (by exact_mod_cast hnum) hden'
  -- whether the first guess is right is decided by the comparison in the definition
  have hguess : den * Nat.pow 2 ((num.log2 : Int) - den.log2).toNat ≤
      num * Nat.pow 2 (-((num.log2 : Int) - den.log2)).toNat ↔
        (2 : ℚ) ^ ((num.log2 : Int) - den.log2) ≤ num / den := by
    have hpos : (0 : ℚ) < (Nat.pow 2 (-((num.log2 : Int) - den.log2)).toNat : Nat) := by
      exact_mod_cast Nat.two_pow_pos _
    rw [two_zpow_eq, div_le_div_iff₀ hpos hden', mul_comm (Nat.cast (Nat.pow 2 _)) (den : ℚ)]
    exact_mod_cast Iff.rfl
  unfold leadingExponent
  simp only [hguess]
  split_ifs with h
  · have hhigh : (num / den : ℚ) < 2 ^ ((num.log2 : Int) - den.log2 + 1) :=
      lt_two_zpow_log2_sub hden
    exact le_antisymm ((le_log_iff hx).2 h) (Int.lt_add_one_iff.1 ((log_lt_iff hx).2 hhigh))
  · have hlow := (le_log_iff hx).2 (two_zpow_log2_sub_le hnum hden)
    exact le_antisymm hlow (Int.le_sub_one_iff.2 ((log_lt_iff hx).2 (not_le.1 h)))

theorem lastPlace_eq (hnum : 0 < num) (hden : 0 < den) :
    f.lastPlace num den = f.place (num / den : ℚ) := by
  rw [lastPlace, if_neg hnum.ne', leadingExponent_eq hnum hden, place]

/-- The place of a quotient fits the format, and the significand there makes the nearest number. -/
theorem lastPlace_spec [f.Regular] (hden : 0 < den)
    (h : (num / den : ℚ) ≤ 2 ^ (f.precision + (f.maxExponent - 1))) :
    f.lastPlace num den ≤ f.maxExponent ∧
      scaled (nearestNat .even (num / den / 2 ^ f.lastPlace num den)) (f.lastPlace num den) =
        f.nearest (num / den) := by
  rcases Nat.eq_zero_or_pos num with rfl | hnum
  · rw [lastPlace, if_pos rfl]
    exact ⟨Regular.minExponent_le, by simp [scaled, nearestNat, roundDiv]⟩
  · have hrange : f.minExponent ≤ f.maxExponent := Regular.minExponent_le
    have hpos : (0 : ℚ) < num / den := div_pos (by exact_mod_cast hnum) (by exact_mod_cast hden)
    have hlog : Int.log 2 (num / den : ℚ) < f.precision + f.maxExponent := by
      refine (log_lt_iff hpos).2 (h.trans_lt (zpow_lt_zpow_right₀ one_lt_two ?_))
      omega
    rw [lastPlace_eq hnum hden]
    refine ⟨?_, rfl⟩
    simp only [place]
    omega

/-- **A quotient is rounded to the number nearest to it**, unless that is beyond the format. -/
theorem round_ofSize [f.Regular] (hden : 0 < den)
    (h : (num / den : ℚ) ≤ 2 ^ (f.precision + (f.maxExponent - 1))) :
    (f.round s num den).OfSize s (f.nearest (num / den)) := by
  obtain ⟨hle, hvalue⟩ := lastPlace_spec hden h
  have hsignificand := roundDiv_zpow .even two_pos hden num (f.lastPlace num den)
  rw [Nat.cast_ofNat] at hsignificand
  simp only [round, hsignificand]
  generalize f.lastPlace num den = e at hle hvalue
  generalize nearestNat .even (num / den / 2 ^ e) = m at hvalue
  by_cases hcarry : m = Nat.pow 2 f.precision
  · -- the carry writes the same number with one digit less, and it is not beyond the format
    have hp : 0 < f.precision := Regular.precision_pos
    have hpower : scaled m e = 2 ^ (f.precision + e) := by rw [hcarry, ← scaled_pow]; rfl
    have hnumber : f.HasNumber (2 ^ (f.precision + (f.maxExponent - 1))) :=
      ⟨_, _, Nat.pow_lt_pow_right one_lt_two (by omega), Regular.minExponent_le, scaled_firstBit _⟩
    have hlast := nearest_le (by positivity) hnumber h
    rw [← hvalue, hpower, zpow_le_zpow_iff_right₀ one_lt_two] at hlast
    rw [if_pos hcarry, if_pos hcarry, if_neg (by omega)]
    refine ⟨_, _, rfl, ?_⟩
    rw [← hvalue, hpower]
    refine (scaled_firstBit (f := f) (e + 1)).trans ?_
    rw [add_sub_cancel_right]
  · rw [if_neg hcarry, if_neg hcarry, if_neg (by omega)]
    exact ⟨m, e, rfl, hvalue⟩

theorem roundScaled_quotient (num den : Nat) (e : Int) :
    ((num * Nat.pow 2 e.toNat : Nat) / (den * Nat.pow 2 (-e).toNat : Nat) : ℚ) =
      scaled num e / den := by
  rw [scaled, two_zpow_eq, mul_div_assoc', div_div, mul_comm (Nat.cast (Nat.pow 2 _)) (den : ℚ)]
  push_cast
  rfl

theorem roundScaled_ofSize [f.Regular] (hden : 0 < den)
    (h : scaled num e / den ≤ 2 ^ (f.precision + (f.maxExponent - 1))) :
    (f.roundScaled s num den e).OfSize s (f.nearest (scaled num e / den)) := by
  rw [← roundScaled_quotient] at h ⊢
  exact round_ofSize (Nat.mul_pos hden (Nat.two_pow_pos _)) h

theorem ofNat_ofSize [f.Regular] (h : (n : ℚ) ≤ 2 ^ (f.precision + (f.maxExponent - 1))) :
    (f.ofNat n).OfSize false (f.nearest n) := by
  simpa [ofNat] using round_ofSize (s := false) Nat.one_pos (by simpa using h)

theorem mul_ofSize [f.Regular] (hd : d.OfSize s x) (hd' : d'.OfSize t y)
    (h : x * y ≤ 2 ^ (f.precision + (f.maxExponent - 1))) :
    (f.mul d d').OfSize (s != t) (f.nearest (x * y)) := by
  obtain ⟨m, e, rfl, rfl⟩ := hd
  obtain ⟨n, e', rfl, rfl⟩ := hd'
  have hproduct : scaled m e * scaled n e' = scaled (m * n) (e + e') / (1 : Nat) := by
    rw [scaled, scaled, scaled, zpow_add₀ two_ne_zero]
    push_cast
    ring
  rw [hproduct] at h ⊢
  exact roundScaled_ofSize Nat.one_pos h

theorem div_ofSize [f.Regular] (hd : d.OfSize s x) (hd' : d'.OfSize t y) (hy : y ≠ 0)
    (h : x / y ≤ 2 ^ (f.precision + (f.maxExponent - 1))) :
    (f.div d d').OfSize (s != t) (f.nearest (x / y)) := by
  obtain ⟨m, e, rfl, rfl⟩ := hd
  obtain ⟨n, e', rfl, rfl⟩ := hd'
  have hn : n ≠ 0 := by
    rintro rfl
    exact hy (by simp [scaled])
  have hquotient : scaled m e / scaled n e' = scaled m (e - e') / n := by
    rw [scaled, scaled, scaled, zpow_sub₀ two_ne_zero]
    ring
  rw [hquotient] at h ⊢
  simp only [div, if_neg hn]
  exact roundScaled_ofSize (Nat.pos_of_ne_zero hn) h

end Format

namespace Datum

theorem roundToInteger_ofSize (hd : d.OfSize s x) :
    d.roundToInteger.OfSize s (nearestNat .up x) := by
  obtain ⟨m, e, rfl, rfl⟩ := hd
  simp only [roundToInteger]
  split_ifs with he
  · have hwhole : scaled m e = (m * 2 ^ (e - 0).toNat : Nat) := by
      rw [scaled_eq_of_le he, zpow_zero, mul_one]
    exact ⟨m, e, rfl, by rw [hwhole, nearestNat_natCast]⟩
  · refine ⟨_, 0, rfl, ?_⟩
    have hpos : 0 < Nat.pow 2 (-e).toNat := Nat.two_pow_pos _
    have hplace : (2 : ℚ) ^ e = 1 / (Nat.pow 2 (-e).toNat : Nat) := by
      have hzero : e.toNat = 0 := by omega
      rw [two_zpow_eq, hzero]
      simp
    rw [roundDiv_eq .up hpos, scaled, scaled, zpow_zero, mul_one, hplace, mul_one_div]

/-- The integer part of a number that is not negative, up to the limit. -/
theorem truncate_ofSize (hd : d.OfSize false x) (limit : Nat) :
    d.truncate limit = min limit ⌊x⌋₊ := by
  obtain ⟨m, e, rfl, rfl⟩ := hd
  simp only [truncate, Bool.false_eq_true, if_false]
  rw [← Nat.floor_div_eq_div (K := ℚ), scaled, two_zpow_eq, mul_div_assoc']
  push_cast
  rfl

/-- Nothing is left of a number with a sign. -/
theorem truncate_negative (hd : d.OfSize true x) (limit : Nat) : d.truncate limit = 0 := by
  obtain ⟨m, e, rfl, rfl⟩ := hd
  rfl

theorem fixedUnits_eq (places : Nat) :
    fixedUnits places m e = nearestNat .even (scaled m e * 10 ^ places) := by
  have hpos : 0 < Nat.pow 2 (-e).toNat := Nat.two_pow_pos _
  rw [fixedUnits, roundDiv_eq .even hpos, scaled, two_zpow_eq]
  simp only [Nat.pow_eq]
  push_cast
  congr 1
  ring

end Datum

end ShaperDash
