import ShaperDash.Proofs.Number.Data

/-!
# Upper bounds survive rounding

A number that is at most a natural number is so after every rounding, since the natural number is
one that the rounding leaves alone.  Sizes of data are compared as rational numbers.

* `Format.nearest_natCast`, `Format.ofNat_eq` : natural numbers of up to 53 bits are numbers of the
  64-bit format, and rounding leaves them as they are.
* `Format.abs_nearest_sub_le_of_one_le` : the relative error from one upwards.
* `Format.div_le`, `Format.mul_le`, `Datum.roundToInteger_le` : **a bound that is a natural number
  is kept by every operation.**
-/

namespace ShaperDash

theorem scaled_le_iff {m k : Nat} {e : Int} :
    scaled m e ≤ k ↔ m * Nat.pow 2 e.toNat ≤ k * Nat.pow 2 (-e).toNat := by
  have hpos : (0 : ℚ) < (Nat.pow 2 (-e).toNat : Nat) := by
    have : 0 < Nat.pow 2 (-e).toNat := Nat.two_pow_pos _
    exact_mod_cast this
  rw [scaled, two_zpow_eq, mul_div_assoc', div_le_iff₀ hpos]
  exact_mod_cast Iff.rfl

/-- A quotient that is at most a natural number is rounded to no more than that. -/
theorem roundDiv_le (tie : Tie) {num den k : Nat} (hden : 0 < den) (h : num ≤ k * den) :
    roundDiv tie num den ≤ k := by
  rw [roundDiv_le_iff tie hden, Nat.add_mul, Nat.mul_assoc]
  exact .inl (by omega)

theorem exists_natCast_eq (k : Nat) : ∃ n : Nat, (2 : ℚ) ^ (k : Int) = n :=
  ⟨2 ^ k, by rw [zpow_natCast, Nat.cast_pow, Nat.cast_ofNat]⟩

namespace Format

theorem hasNumber_natCast {n : Nat} (hn : n < 2 ^ 53) : binary64.HasNumber n :=
  ⟨n, 0, hn, by decide, by simp [scaled]⟩

theorem nearest_natCast {n : Nat} (hn : n < 2 ^ 53) : binary64.nearest n = n :=
  nearest_eq (Nat.cast_nonneg n) (hasNumber_natCast hn)

theorem nearest_one : binary64.nearest 1 = 1 := by
  exact_mod_cast nearest_natCast (n := 1) (by decide)

theorem nearest_hundred : binary64.nearest 100 = 100 := by
  exact_mod_cast nearest_natCast (n := 100) (by decide)

variable {s t : Bool} {m n k : Nat} {e d : Int} {x : ℚ}

/-- A natural number that the format has is not beyond its end. -/
theorem le_greatest (hk : k ≤ Nat.pow 2 52) :
    (k : ℚ) ≤ 2 ^ (binary64.precision + (binary64.maxExponent - 1)) :=
  calc (k : ℚ) ≤ 2 ^ (52 : Int) := by exact_mod_cast hk
    _ ≤ _ := zpow_le_zpow_right₀ one_le_two (by decide)

/-- Natural numbers that the format has are taken over as they are. -/
theorem ofNat_eq (hn : n ≤ Nat.pow 2 52) : (binary64.ofNat n).OfSize false n := by
  have hsize := ofNat_ofSize (f := binary64) (le_greatest hn)
  rwa [nearest_natCast (hn.trans_lt (by decide))] at hsize

theorem hundred_ofSize : (binary64.ofNat 100).OfSize false 100 := by
  exact_mod_cast ofNat_eq (n := 100) (by decide)

theorem nearest_le_two_zpow {k : Int} (hx : 0 ≤ x) (hk : -1074 ≤ k) (h : x ≤ 2 ^ k) :
    binary64.nearest x ≤ 2 ^ k :=
  nearest_le hx ⟨1, k, by decide, hk, by simp [scaled]⟩ h

theorem two_zpow_le_nearest {k : Int} (hk : -1074 ≤ k) (h : 2 ^ k ≤ x) :
    2 ^ k ≤ binary64.nearest x :=
  le_nearest ((two_zpow_pos k).le.trans h) ⟨1, k, by decide, hk, by simp [scaled]⟩ h

theorem one_le_nearest (hx : 1 ≤ x) : 1 ≤ binary64.nearest x := by
  have hone : binary64.HasNumber 1 := by exact_mod_cast hasNumber_natCast (n := 1) (by decide)
  exact le_nearest (zero_le_one.trans hx) hone hx

theorem abs_nearest_sub_le_of_one_le (hx : 1 ≤ x) : |binary64.nearest x - x| ≤ x / 2 ^ 53 := by
  refine abs_nearest_sub_le_div (f := binary64) (le_trans ?_ hx)
  exact zpow_le_one_of_nonpos₀ one_le_two (by decide)

/-- A number that is at most a natural number is so after rounding. -/
theorem exists_le_of_nearest {q : Datum} (hq : q.OfSize s (binary64.nearest x)) (hx : 0 ≤ x)
    (hk : k ≤ Nat.pow 2 52) (h : x ≤ k) : ∃ m e, q = .finite s m e ∧ scaled m e ≤ k := by
  obtain ⟨m, e, rfl, hsize⟩ := hq
  have hnumber := hasNumber_natCast (hk.trans_lt (by decide))
  exact ⟨m, e, rfl, hsize.trans_le (nearest_le hx hnumber h)⟩

/-- A quotient of data that is at most a natural number is so after rounding. -/
theorem div_le (hn : 0 < n) (hk : k ≤ Nat.pow 2 52) (h : scaled m e ≤ k * scaled n d) :
    ∃ m' e', binary64.div (.finite s m e) (.finite t n d) = .finite (s != t) m' e' ∧
      scaled m' e' ≤ k := by
  have hpos : 0 < scaled n d := mul_pos (by exact_mod_cast hn) (two_zpow_pos d)
  have hquotient : scaled m e / scaled n d ≤ k := (div_le_iff₀ hpos).2 h
  have hdiv := div_ofSize (f := binary64) (s := s) (t := t) ⟨m, e, rfl, rfl⟩ ⟨n, d, rfl, rfl⟩
    hpos.ne' (hquotient.trans (le_greatest hk))
  exact exists_le_of_nearest hdiv (div_nonneg (scaled_nonneg ..) hpos.le) hk hquotient

/-- A product of data that is at most a natural number is so after rounding. -/
theorem mul_le (hk : k ≤ Nat.pow 2 52) (h : scaled m e * scaled n d ≤ k) :
    ∃ m' e', binary64.mul (.finite s m e) (.finite t n d) = .finite (s != t) m' e' ∧
      scaled m' e' ≤ k := by
  have hmul := mul_ofSize (f := binary64) (s := s) (t := t) ⟨m, e, rfl, rfl⟩ ⟨n, d, rfl, rfl⟩
    (h.trans (le_greatest hk))
  exact exists_le_of_nearest hmul (mul_nonneg (scaled_nonneg ..) (scaled_nonneg ..)) hk h

theorem ofNat_le (hk : k ≤ Nat.pow 2 52) :
    ∃ m e, binary64.ofNat k = .finite false m e ∧ scaled m e ≤ k :=
  exists_le_of_nearest (ofNat_ofSize (le_greatest hk)) (Nat.cast_nonneg k) hk le_rfl

end Format

namespace Datum

variable {s t : Bool} {m n k : Nat} {e d : Int}

/-- Shifted to the smaller of two exponents, a number stays what it is. -/
theorem signed_shifted (s : Bool) (m : Nat) (e d : Int) :
    (signed s (m * Nat.pow 2 (e - d).toNat) : ℚ) * 2 ^ min e d = (signed s m : ℚ) * 2 ^ e := by
  have hpower : (2 : ℚ) ^ (e - d).toNat * 2 ^ min e d = 2 ^ e := by
    rw [← zpow_natCast, ← zpow_add₀ two_ne_zero]
    congr 1
    omega
  rw [← hpower]
  cases s <;> simp [signed] <;> ring

/-- Data are compared as the numbers that they stand for. -/
theorem lt_finite_iff :
    (finite s m e).lt (finite t n d) = true ↔
      (signed s m : ℚ) * 2 ^ e < (signed t n : ℚ) * 2 ^ d := by
  have hpos : (0 : ℚ) < 2 ^ min e d := zpow_pos two_pos _
  have hright := signed_shifted t n d e
  rw [min_comm] at hright
  rw [← signed_shifted s m e d, ← hright, mul_lt_mul_iff_left₀ hpos, Int.cast_lt]
  exact decide_eq_true_iff

theorem le_finite_iff :
    (finite s m e).le (finite t n d) = true ↔
      (signed s m : ℚ) * 2 ^ e ≤ (signed t n : ℚ) * 2 ^ d := by
  have hpos : (0 : ℚ) < 2 ^ min e d := zpow_pos two_pos _
  have hright := signed_shifted t n d e
  rw [min_comm] at hright
  rw [← signed_shifted s m e d, ← hright, mul_le_mul_iff_left₀ hpos, Int.cast_le]
  exact decide_eq_true_iff

theorem OfSize.le_iff {d d' : Datum} {x y : ℚ} (h : d.OfSize false x) (h' : d'.OfSize false y) :
    d.le d' = true ↔ x ≤ y := by
  obtain ⟨m, e, rfl, rfl⟩ := h
  obtain ⟨n, e', rfl, rfl⟩ := h'
  rw [le_finite_iff]
  simp [signed, scaled]

/-- A bound is kept when a datum is rounded to an integer. -/
theorem roundToInteger_le (h : scaled m e ≤ k) :
    ∃ m' e', (finite s m e).roundToInteger = .finite s m' e' ∧ scaled m' e' ≤ k := by
  obtain ⟨m', e', hround, hsize⟩ := roundToInteger_ofSize (d := finite s m e) ⟨m, e, rfl, rfl⟩
  refine ⟨m', e', hround, hsize.trans_le ?_⟩
  have hmono := nearestNat_mono .up (scaled_nonneg m e) h
  rw [nearestNat_natCast] at hmono
  exact_mod_cast hmono

theorem truncate_le (h : scaled m e ≤ k) (limit : Nat) : (finite s m e).truncate limit ≤ k := by
  simp only [truncate]
  split_ifs
  · exact Nat.zero_le k
  · refine Nat.le_trans (Nat.min_le_right ..) (Nat.div_le_of_le_mul ?_)
    rw [Nat.mul_comm _ k]
    exact scaled_le_iff.1 h

end Datum

end ShaperDash
