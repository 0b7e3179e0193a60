import Mathlib.Algebra.Order.Field.Power
import Mathlib.Data.Nat.Cast.Order.Field
import ShaperDash.Proofs.Number.Numerals

/-!
# The shortest numeral reads back

The search for a short numeral goes through finer and finer grids and stops inside the rounding
interval at the latest where the grid is finer than the interval.  Whatever lies in the rounding
interval of a number is rounded to it, so that the numeral that is found denotes a number that
rounds to the one spelled.  Since rounding keeps the order, so do the numerals.

* `RoundingInterval.contains_search` : the search ends inside the interval.
* `Format.nearest_of_contains` : **what lies in the rounding interval is rounded to its value.**
* `Format.nearest_shortest` : the shortest numeral is rounded to the number that it spells.
* `Format.shortest_mono` : **shortest numerals are in the order of the numbers that they spell.**
-/

namespace ShaperDash

variable {tie : Tie} {num den m n : Nat} {e e' k : Int} {x : ℚ}

theorem ten_zpow_eq (k : Int) :
    (10 : ℚ) ^ k = (Nat.pow 10 k.toNat : Nat) / (Nat.pow 10 (-k).toNat : Nat) := by
  exact_mod_cast zpow_eq_div 10 k

/-! ### The search -/

namespace RoundingInterval

variable (i : RoundingInterval)

/-- `x` lies between the ends, or is an end that belongs to the interval. -/
def Contains (x : ℚ) : Prop :=
  ((i.lower / i.den : ℚ) < x ∨ i.closed = true ∧ (i.lower / i.den : ℚ) = x) ∧
    (x < i.upper / i.den ∨ i.closed = true ∧ x = i.upper / i.den)

variable {i}

theorem holds_iff (hden : 0 < i.den) {c : Nat} :
    i.holds c k = true ↔ i.Contains (c * 10 ^ k) := by
  have hden' : (0 : ℚ) < i.den := by exact_mod_cast hden
  have hpos : (0 : ℚ) < (Nat.pow 10 (-k).toNat : Nat) := by
    have : 0 < Nat.pow 10 (-k).toNat := Nat.pow_pos (by decide)
    exact_mod_cast this
  -- an end and the multiple compare as the natural numbers in the definition do
  have hle : ∀ n : Nat, ((n / i.den : ℚ) ≤ c * 10 ^ k ↔
      n * Nat.pow 10 (-k).toNat ≤ c * Nat.pow 10 k.toNat * i.den) ∧
        ((c * 10 ^ k : ℚ) ≤ n / i.den ↔
          c * Nat.pow 10 k.toNat * i.den ≤ n * Nat.pow 10 (-k).toNat) := by
    intro n
    rw [ten_zpow_eq, mul_div_assoc', div_le_div_iff₀ hden' hpos, div_le_div_iff₀ hpos hden']
    exact ⟨by exact_mod_cast Iff.rfl, by exact_mod_cast Iff.rfl⟩
  simp only [Contains, holds]
  cases i.closed with
  | true =>
    simp only [true_and, ← le_iff_lt_or_eq, (hle _).1, (hle _).2, if_true, Bool.and_eq_true,
      decide_eq_true_eq]
  | false =>
    simp only [← not_le, (hle _).1, (hle _).2, Bool.false_eq_true, false_and, or_false, if_false,
      Bool.and_eq_true, decide_eq_true_eq]

theorem contains_of_onGrid (hden : 0 < i.den) {d : Decimal} (h : i.onGrid tie k = some d) :
    i.Contains d.value := by
  unfold onGrid at h
  extract_lets _ _ below near far at h
  split_ifs at h with hnear hfar
  · cases h
    exact (holds_iff hden).1 hnear
  · cases h
    exact (holds_iff hden).1 hfar

/-- **The search ends inside the interval**, if its last grid is finer than the interval. -/
theorem contains_search (hden : 0 < i.den) (steps : Nat)
    (h : ∀ x : ℚ, |x - i.value / i.den| ≤ 10 ^ (k - steps) / 2 → i.Contains x) :
    i.Contains (i.search tie steps k).value := by
  induction steps generalizing k with
  | zero =>
    refine h _ ?_
    have hnear := roundDiv_zpow tie (by decide : 0 < 10) hden i.value k
    rw [Nat.cast_ofNat] at hnear
    simp only [search, Decimal.value]
    rw [hnear, Nat.cast_zero, sub_zero]
    exact abs_nearestNat_mul_sub_le tie (by positivity) (zpow_pos (by norm_num) k)
  | succ steps ih =>
    simp only [search]
    cases hgrid : i.onGrid tie k with
    | some d => exact contains_of_onGrid hden hgrid
    | none =>
      refine ih fun x hx => h x ?_
      have hplace : k - (steps + 1 : Nat) = k - 1 - steps := by
        push_cast
        ring
      rwa [hplace]

end RoundingInterval

/-- The leading place of a quotient does not exceed it. -/
theorem ten_zpow_leadingPlace_le (hnum : 0 < num) (hden : 0 < den) :
    (10 : ℚ) ^ leadingPlace num den ≤ num / den := by
  have hden' : (0 : ℚ) < den := by exact_mod_cast hden
  unfold leadingPlace
  split_ifs with hle
  · have hcount : 0 < digitCount (num / den) := Nat.length_toDigits_pos
    have hlow := pow_digitCount_le (Nat.div_pos hle hden)
    have hplace : (digitCount (num / den) : Int) - 1 = (digitCount (num / den) - 1 : Nat) := by
      omega
    rw [hplace, zpow_natCast]
    calc (10 : ℚ) ^ (digitCount (num / den) - 1) ≤ (num / den : Nat) := by exact_mod_cast hlow
      _ ≤ num / den := Nat.cast_div_le
  · have hhigh := lt_pow_digitCount ((den - 1) / num)
    rw [Nat.div_lt_iff_lt_mul hnum] at hhigh
    rw [zpow_neg, zpow_natCast, le_div_iff₀ hden', inv_mul_le_iff₀ (by positivity)]
    have hcross : den ≤ 10 ^ digitCount ((den - 1) / num) * num := by omega
    exact_mod_cast hcross

/-- A quotient is below the power of ten after its leading place. -/
theorem lt_ten_zpow_leadingPlace (hnum : 0 < num) (hden : 0 < den) :
    (num / den : ℚ) < 10 ^ (leadingPlace num den + 1) := by
  have hden' : (0 : ℚ) < den := by exact_mod_cast hden
  unfold leadingPlace
  split_ifs with hle
  · have hhigh := lt_pow_digitCount (num / den)
    rw [Nat.div_lt_iff_lt_mul hden] at hhigh
    rw [sub_add_cancel, zpow_natCast, div_lt_iff₀ hden']
    exact_mod_cast hhigh
  · have hlow := pow_digitCount_le (n := (den - 1) / num) (Nat.div_pos (by omega) hnum)
    have hcount : 0 < digitCount ((den - 1) / num) := Nat.length_toDigits_pos
    have hplace : -(digitCount ((den - 1) / num) : Int) + 1 =
        -(digitCount ((den - 1) / num) - 1 : Nat) := by
      omega
    rw [Nat.le_div_iff_mul_le hnum] at hlow
    rw [hplace, zpow_neg, zpow_natCast, div_lt_iff₀ hden', lt_inv_mul_iff₀ (by positivity)]
    have hcross : 10 ^ (digitCount ((den - 1) / num) - 1) * num < den := by omega
    exact_mod_cast hcross

/-! ### Rounding intervals -/

namespace Format

variable {f : Format}

/-- `m * 2 ^ e` is how the format has the number: with the first bit set, or in the last place of
all. -/
def Canonical (f : Format) (m : Nat) (e : Int) : Prop :=
  m < 2 ^ f.precision ∧ f.minExponent ≤ e ∧ (m < 2 ^ (f.precision - 1) → e = f.minExponent)

/-- The neighbour below lies twice as close: it has a place less. -/
def Close (f : Format) (m : Nat) (e : Int) : Prop :=
  m = Nat.pow 2 (f.precision - 1) ∧ f.minExponent < e

theorem Canonical.scaled_lt (h : f.Canonical m e) : scaled m e < 2 ^ (f.precision + e) := by
  rw [← scaled_pow]
  exact mul_lt_mul_of_pos_right (by exact_mod_cast h.1) (two_zpow_pos e)

theorem Canonical.le_scaled [f.Regular] (h : f.Canonical m e) (he : f.minExponent < e) :
    2 ^ (f.precision + (e - 1)) ≤ scaled m e := by
  have hm : 2 ^ (f.precision - 1) ≤ m := Nat.le_of_not_lt fun hlt => he.ne' (h.2.2 hlt)
  rw [← scaled_firstBit]
  exact mul_le_mul_of_nonneg_right (by exact_mod_cast hm) (two_zpow_pos e).le

/-- The greater of two numbers has no smaller place. -/
theorem Canonical.exponent_le [f.Regular] (h : f.Canonical m e) (h' : f.Canonical n e')
    (hle : scaled m e ≤ scaled n e') : e ≤ e' := by
  by_contra hgt
  have hlow := h.le_scaled (h'.2.1.trans_lt (not_le.1 hgt))
  have hpower : (2 : ℚ) ^ (f.precision + e') ≤ 2 ^ (f.precision + (e - 1)) :=
    zpow_le_zpow_right₀ one_le_two (by omega)
  exact absurd (hlow.trans hle) (not_le.2 (h'.scaled_lt.trans_le hpower))

/-- A number has one canonical form. -/
theorem Canonical.unique [f.Regular] (h : f.Canonical m e) (h' : f.Canonical n e')
    (heq : scaled m e = scaled n e') : m = n ∧ e = e' := by
  obtain rfl : e = e' := le_antisymm (h.exponent_le h' heq.le) (h'.exponent_le h heq.ge)
  have hm := mul_right_cancel₀ (two_zpow_pos e).ne' heq
  exact ⟨by exact_mod_cast hm, rfl⟩

/-- The words of the format have their numbers in canonical form. -/
theorem canonical_of_decode [f.Regular] {word : Nat} {s : Bool}
    (h : f.decode word = .finite s m e) : f.Canonical m e ∧ e ≤ f.maxExponent := by
  have hp : 0 < f.precision := Regular.precision_pos
  have hrange : f.minExponent ≤ f.maxExponent := Regular.minExponent_le
  have hbit : 0 < Nat.pow 2 (f.precision - 1) := Nat.two_pow_pos _
  have hpower : 2 ^ f.precision = 2 * 2 ^ (f.precision - 1) := by
    rw [← Nat.pow_succ', Nat.succ_eq_add_one, Nat.sub_add_cancel hp]
  unfold decode at h
  extract_lets negative code field fraction at h
  have hfraction : fraction < 2 ^ (f.precision - 1) := Nat.mod_lt _ hbit
  split_ifs at h with hnan hinfinite hfield
  · obtain ⟨-, rfl, rfl⟩ := Datum.finite.inj h
    exact ⟨⟨by omega, le_rfl, fun _ => rfl⟩, hrange⟩
  · obtain ⟨-, rfl, rfl⟩ := Datum.finite.inj h
    have hcode : code < f.infinityCode := by omega
    have hlast : field < (f.maxExponent - f.minExponent + 2).toNat :=
      Nat.div_lt_of_lt_mul (by rwa [Nat.mul_comm])
    have hsignificand : Nat.pow 2 (f.precision - 1) = 2 ^ (f.precision - 1) := rfl
    refine ⟨⟨by omega, by omega, fun hlt => ?_⟩, by omega⟩
    omega

theorem roundingInterval_den_pos : 0 < (f.roundingInterval m e).den := Nat.two_pow_pos _

theorem roundingInterval_scale (n : Nat) :
    ((n * Nat.pow 2 (e - 2).toNat : Nat) / (f.roundingInterval m e).den : ℚ) = n / 4 * 2 ^ e := by
  have hfour : (2 : ℚ) ^ e = 4 * 2 ^ (e - 2) := by
    rw [zpow_sub₀ two_ne_zero]
    norm_num
    ring
  have hneg : -(e - 2) = 2 - e := by ring
  rw [hfour, two_zpow_eq (e - 2), hneg]
  simp only [roundingInterval]
  push_cast
  ring

theorem roundingInterval_value :
    ((f.roundingInterval m e).value / (f.roundingInterval m e).den : ℚ) = scaled m e := by
  refine (roundingInterval_scale (4 * m)).trans ?_
  rw [scaled]
  push_cast
  ring

theorem roundingInterval_upper :
    ((f.roundingInterval m e).upper / (f.roundingInterval m e).den : ℚ) =
      scaled m e + 2 ^ e / 2 := by
  refine (roundingInterval_scale (4 * m + 2)).trans ?_
  rw [scaled]
  push_cast
  ring

theorem roundingInterval_lower_of_close (hm : 0 < m) (h : f.Close m e) :
    ((f.roundingInterval m e).lower / (f.roundingInterval m e).den : ℚ) =
      scaled m e - 2 ^ e / 4 := by
  have hlower : (f.roundingInterval m e).lower = (4 * m - 1) * Nat.pow 2 (e - 2).toNat := by
    simp only [roundingInterval]
    rw [if_pos ⟨h.1, h.2⟩]
  rw [hlower, roundingInterval_scale, scaled, Nat.cast_sub (by omega)]
  push_cast
  ring

theorem roundingInterval_lower (hm : 0 < m) (h : ¬ f.Close m e) :
    ((f.roundingInterval m e).lower / (f.roundingInterval m e).den : ℚ) =
      scaled m e - 2 ^ e / 2 := by
  have hlower : (f.roundingInterval m e).lower = (4 * m - 2) * Nat.pow 2 (e - 2).toNat := by
    simp only [roundingInterval]
    rw [if_neg fun hc => h ⟨hc.1, hc.2⟩]
  rw [hlower, roundingInterval_scale, scaled, Nat.cast_sub (by omega)]
  push_cast
  ring

/-- What is closer than a quarter of the last place lies in the interval. -/
theorem contains_of_abs_lt (hm : 0 < m) (h : |x - scaled m e| < 2 ^ e / 4) :
    (f.roundingInterval m e).Contains x := by
  obtain ⟨hlow, hhigh⟩ := abs_lt.1 h
  have hscale := two_zpow_pos e
  refine ⟨.inl ?_, .inl ?_⟩
  · by_cases hclose : f.Close m e
    · rw [roundingInterval_lower_of_close hm hclose]
      linarith
    · rw [roundingInterval_lower hm hclose]
      linarith
  · rw [roundingInterval_upper]
    linarith

theorem place_eq (hx : 0 < x) (hmin : f.minExponent ≤ e)
    (hlow : e = f.minExponent ∨ 2 ^ (f.precision + (e - 1)) ≤ x)
    (hhigh : x < 2 ^ (f.precision + e)) :
    f.place x = e := by
  have hlog : Int.log 2 x < f.precision + e := (log_lt_iff hx).2 hhigh
  rcases hlow with rfl | hlow
  · simp only [place]
    omega
  · have hlog' : f.precision + (e - 1) ≤ Int.log 2 x := (le_log_iff hx).2 hlow
    simp only [place]
    omega

theorem roundingInterval_closed :
    (f.roundingInterval m e).closed = true ↔ m % 2 = 0 := by
  simp [roundingInterval]

theorem two_zpow_le_scaled (hm : 0 < m) (e : Int) : 2 ^ e ≤ scaled m e :=
  le_mul_of_one_le_left (two_zpow_pos e).le (by exact_mod_cast hm)

theorem Canonical.add_le (h : f.Canonical m e) : scaled m e + 2 ^ e ≤ 2 ^ (f.precision + e) := by
  rw [← scaled_pow, scaled, scaled, ← add_one_mul]
  exact mul_le_mul_of_nonneg_right (by exact_mod_cast h.1) (two_zpow_pos e).le

/-- Upwards the next number is a whole place away. -/
theorem nearest_of_above [f.Regular] (h : f.Canonical m e) (hm : 0 < m) (hge : scaled m e ≤ x)
    (hx : x < scaled m e + 2 ^ e / 2 ∨ m % 2 = 0 ∧ x = scaled m e + 2 ^ e / 2) :
    f.nearest x = scaled m e := by
  have hscale := two_zpow_pos e
  have hpos : 0 < x := hscale.trans_le ((two_zpow_le_scaled hm e).trans hge)
  have hplace : f.place x = e := by
    refine place_eq hpos h.2.1 ?_ ?_
    · rcases h.2.1.eq_or_lt with heq | hlt
      · exact .inl heq.symm
      · exact .inr ((h.le_scaled hlt).trans hge)
    · have hnext := h.add_le
      rcases hx with hx | ⟨-, hx⟩ <;> linarith
  refine nearest_eq_scaled hpos.le hplace ?_
  rw [abs_of_nonneg (sub_nonneg.2 hge)]
  rcases hx with hx | ⟨heven, rfl⟩
  · exact .inl (by linarith)
  · exact .inr ⟨by ring, heven⟩

/-- Below the first number of a place the numbers have one place more, in which its significand is
even. -/
theorem nearest_of_close [f.Regular] (hmin : f.minExponent < e)
    (hlow : scaled (2 ^ (f.precision - 1)) e - 2 ^ e / 4 ≤ x)
    (hhigh : x < scaled (2 ^ (f.precision - 1)) e) :
    f.nearest x = scaled (2 ^ (f.precision - 1)) e := by
  have hscale := two_zpow_pos e
  have hone := two_zpow_le_scaled (Nat.two_pow_pos (f.precision - 1)) e
  have hhalf : (2 : ℚ) ^ (e - 1) = 2 ^ e / 2 := by rw [zpow_sub_one₀ two_ne_zero]; rfl
  have hdouble : scaled (2 ^ (f.precision - 1)) e =
      scaled (2 * 2 ^ (f.precision - 1)) (e - 1) := by
    rw [scaled, scaled, hhalf]
    push_cast
    ring
  have hplace : f.place x = e - 1 := by
    have hfirst := scaled_firstBit (f := f) e
    have hpower : (2 : ℚ) ^ (f.precision + (e - 1 - 1)) =
        scaled (2 ^ (f.precision - 1)) e / 2 := by
      rw [hfirst, ← add_sub_assoc, zpow_sub_one₀ two_ne_zero]
      rfl
    refine place_eq (by linarith) (by omega) (.inr ?_) (by rwa [← hfirst])
    rw [hpower]
    linarith
  have hle : |x - scaled (2 ^ (f.precision - 1)) e| ≤ 2 ^ (e - 1) / 2 := by
    rw [abs_of_neg (sub_neg.2 hhigh), hhalf]
    linarith
  rw [hdouble] at hle ⊢
  refine nearest_eq_scaled (by linarith) hplace ?_
  exact hle.lt_or_eq.imp_right fun heq => ⟨heq, Nat.mul_mod_right 2 _⟩

/-- Elsewhere the next number downwards is a whole place away too. -/
theorem nearest_of_below [f.Regular] (h : f.Canonical m e) (hm : 0 < m) (hclose : ¬ f.Close m e)
    (hx : scaled m e - 2 ^ e / 2 < x ∨ m % 2 = 0 ∧ scaled m e - 2 ^ e / 2 = x)
    (hlt : x < scaled m e) : f.nearest x = scaled m e := by
  have hscale := two_zpow_pos e
  have hone := two_zpow_le_scaled hm e
  have hlow : scaled m e - 2 ^ e / 2 ≤ x := by
    rcases hx with hx | ⟨-, hx⟩
    · exact hx.le
    · exact hx.le
  have hplace : f.place x = e := by
    refine place_eq (by linarith) h.2.1 ?_ (hlt.trans h.scaled_lt)
    rcases h.2.1.eq_or_lt with heq | hmin
    · exact .inl heq.symm
    · -- the significand is above its first bit, so that `x` still reaches that
      have hfirst : 2 ^ (f.precision - 1) ≤ m := Nat.le_of_not_lt fun hm => hmin.ne' (h.2.2 hm)
      have hne : m ≠ 2 ^ (f.precision - 1) := fun heq => hclose ⟨heq, hmin⟩
      have hsucc : scaled (2 ^ (f.precision - 1)) e + 2 ^ e ≤ scaled m e := by
        rw [scaled, scaled, ← add_one_mul]
        refine mul_le_mul_of_nonneg_right ?_ hscale.le
        exact_mod_cast Nat.lt_of_le_of_ne hfirst hne.symm
      rw [scaled_firstBit] at hsucc
      exact .inr (by linarith)
  refine nearest_eq_scaled (by linarith) hplace ?_
  rw [abs_of_neg (sub_neg.2 hlt), neg_sub]
  rcases hx with hx | ⟨heven, hx⟩
  · exact .inl (by linarith)
  · exact .inr ⟨by linarith, heven⟩

/-- **What lies in the rounding interval is rounded to its value.** -/
theorem nearest_of_contains [f.Regular] (h : f.Canonical m e) (hm : 0 < m)
    (hx : (f.roundingInterval m e).Contains x) : f.nearest x = scaled m e := by
  obtain ⟨hlow, hhigh⟩ := hx
  rw [roundingInterval_closed] at hlow hhigh
  rw [roundingInterval_upper] at hhigh
  by_cases hge : scaled m e ≤ x
  · exact nearest_of_above h hm hge hhigh
  · rw [not_le] at hge
    by_cases hclose : f.Close m e
    · rw [roundingInterval_lower_of_close hm hclose] at hlow
      obtain ⟨rfl, hmin⟩ := hclose
      refine nearest_of_close hmin ?_ hge
      rcases hlow with hlow | ⟨-, hlow⟩
      · exact hlow.le
      · exact hlow.le
    · rw [roundingInterval_lower hm hclose] at hlow
      exact nearest_of_below h hm hclose hlow hge

/-- An even significand above the first bit alone is reached by rounding from half a last place
below it on. -/
theorem scaled_le_nearest_iff [f.Regular] (h : f.Canonical m e) (hfirst : 2 ^ (f.precision - 1) < m)
    (heven : m % 2 = 0) (hx : 0 < x) :
    scaled m e ≤ f.nearest x ↔ scaled m e - 2 ^ e / 2 ≤ x := by
  constructor
  · intro hle
    by_contra hlt
    rw [not_le] at hlt
    have hplace : f.place x ≤ e := by
      have hscale := two_zpow_pos e
      have hlog : Int.log 2 x < f.precision + e :=
        (log_lt_iff hx).2 ((hlt.trans (by linarith)).trans h.scaled_lt)
      have hmin := h.2.1
      simp only [place]
      omega
    have hpower : (2 : ℚ) ^ f.place x ≤ 2 ^ e := zpow_le_zpow_right₀ one_le_two hplace
    have herror := (abs_le.1 (abs_nearest_sub_le (f := f) hx.le)).2
    linarith
  · intro hle
    by_cases hge : scaled m e ≤ x
    · exact le_nearest hx.le ⟨m, e, h.1, h.2.1, rfl⟩ hge
    · have hclose : ¬ f.Close m e := fun hc => hfirst.ne' hc.1
      have hlow := hle.lt_or_eq.imp_right fun heq => And.intro heven heq
      exact (nearest_of_below h (Nat.zero_lt_of_lt hfirst) hclose hlow (not_le.1 hge)).ge

/-! ### The shortest numeral -/

theorem contains_shortest [f.Regular] (h : f.Canonical m e) (hm : 0 < m) :
    (f.roundingInterval m e).Contains (f.shortest tie m e).value := by
  have hp : 0 < f.precision := Regular.precision_pos
  have hden : 0 < (f.roundingInterval m e).den := roundingInterval_den_pos
  simp only [shortest, if_neg hm.ne']
  generalize hi : f.roundingInterval m e = i at *
  have hvalue : (i.value / i.den : ℚ) = scaled m e := by rw [← hi, roundingInterval_value]
  have hnum : 0 < i.value := by
    rw [← hi]
    exact Nat.mul_pos (by omega) (Nat.two_pow_pos _)
  have hleading := ten_zpow_leadingPlace_le hnum hden
  generalize leadingPlace i.value i.den = k at hleading
  refine RoundingInterval.contains_search hden f.precision fun x hx => ?_
  rw [hvalue] at hleading hx
  rw [← hi]
  refine contains_of_abs_lt hm (hx.trans_lt ?_)
  -- as many decimal places as the significand has bits are more than enough
  have hbits : (2 : ℚ) * 2 ^ f.precision ≤ 10 ^ f.precision := by
    have hfive : 5 ^ 1 ≤ 5 ^ f.precision := Nat.pow_le_pow_right (by decide) hp
    have hten : 10 ^ f.precision = 5 ^ f.precision * 2 ^ f.precision := Nat.mul_pow 5 2 _
    have hnat : 2 * 2 ^ f.precision ≤ 10 ^ f.precision := by
      rw [hten]
      exact Nat.mul_le_mul_right _ (by omega)
    exact_mod_cast hnat
  have hlt : (10 : ℚ) ^ k < 2 ^ f.precision * 2 ^ e := by
    refine hleading.trans_lt (h.scaled_lt.trans_eq ?_)
    rw [zpow_add₀ two_ne_zero, zpow_natCast]
  rw [zpow_sub₀ (by norm_num), zpow_natCast, div_div, div_lt_div_iff₀ (by positivity) (by norm_num)]
  calc (10 : ℚ) ^ k * 4 < 2 ^ f.precision * 2 ^ e * 4 := by linarith
    _ = 2 ^ e * (2 * 2 ^ f.precision * 2) := by ring
    _ ≤ 2 ^ e * (10 ^ f.precision * 2) := by
      refine mul_le_mul_of_nonneg_left ?_ (two_zpow_pos e).le
      linarith

/-- **The shortest numeral is rounded to the number that it spells.** -/
theorem nearest_shortest [f.Regular] (h : f.Canonical m e) :
    f.nearest (f.shortest tie m e).value = scaled m e := by
  rcases Nat.eq_zero_or_pos m with rfl | hm
  · simp [shortest, Decimal.value, scaled]
  · exact nearest_of_contains h hm (contains_shortest h hm)

/-- **Shortest numerals are in the order of the numbers that they spell.** -/
theorem shortest_mono [f.Regular] (h : f.Canonical m e) (h' : f.Canonical n e')
    (hle : scaled m e ≤ scaled n e') :
    (f.shortest tie m e).value ≤ (f.shortest tie n e').value := by
  rcases hle.lt_or_eq with hlt | heq
  · by_contra hgt
    have hmono := nearest_mono (f := f) (Decimal.value_nonneg _) (not_le.1 hgt).le
    rw [nearest_shortest h, nearest_shortest h'] at hmono
    exact absurd hlt (not_lt.2 hmono)
  · obtain ⟨rfl, rfl⟩ := h.unique h' heq
    exact le_rfl

end Format

end ShaperDash
