import Mathlib.Data.List.DropRight
import Mathlib.Tactic.IntervalCases
import ShaperDash.Proofs.Number.Data

/-!
# Reading numerals

What a decimal numeral denotes is told without the spelling: digits count tens, and digits behind
the point count tenths.  Both ways to spell a number give a numeral, and the number that it denotes
is the one that was spelled.

* `readNumeral` : the number that a numeral denotes.
* `IsNumeral.readNumeral_sign` : a numeral denotes its number, a sign before it the opposite.
* `isNumeral_units` : **a number of hundredths or the like, spelled with so many decimals.**
* `Decimal.isNumeral_positional` : **a decimal number, spelled without an exponent.**
-/

namespace ShaperDash

/-- One or more digits. -/
def IsDigits (cs : List Char) : Prop := cs ≠ [] ∧ ∀ c ∈ cs, c.isDigit = true

instance (cs : List Char) : Decidable (IsDigits cs) :=
  decidable_of_iff (cs ≠ [] ∧ cs.all Char.isDigit = true) (and_congr_right' List.all_eq_true)

/-- The number that a text of digits denotes. -/
def readDigits (cs : List Char) : Option Nat :=
  if IsDigits cs then some (Nat.ofDigitChars 10 cs 0) else none

/-- The number that digits denote, with a point and digits behind it or without. -/
def readUnsigned (cs : List Char) : Option ℚ :=
  match cs.dropWhile (· ≠ '.') with
  | [] => (readDigits cs).map fun (n : Nat) => (n : ℚ)
  | _ :: fraction =>
    (readDigits (cs.takeWhile (· ≠ '.'))).bind fun whole =>
      (readDigits fraction).map fun (part : Nat) => (whole : ℚ) + part / 10 ^ fraction.length

/-- The number that a numeral denotes. -/
def readNumeral : List Char → Option ℚ
  | '-' :: cs => (readUnsigned cs).map fun x => -x
  | cs => readUnsigned cs

/-- The text is digits that denote `x`, with a point and digits behind it or without. -/
def IsNumeral (cs : List Char) (x : ℚ) : Prop :=
  (IsDigits cs ∧ x = Nat.ofDigitChars 10 cs 0) ∨
    ∃ whole fraction, cs = whole ++ '.' :: fraction ∧ IsDigits whole ∧ IsDigits fraction ∧
      x = Nat.ofDigitChars 10 (whole ++ fraction) 0 / 10 ^ fraction.length

variable {cs ds whole fraction : List Char} {x : ℚ}

/-! ### Reading -/

theorem IsDigits.ne_point (h : IsDigits cs) : ∀ c ∈ cs, decide (c ≠ '.') = true := by
  intro c hc
  have hdigit := h.2 c hc
  rw [decide_eq_true_iff]
  rintro rfl
  exact absurd hdigit (by decide)

theorem readDigits_eq (h : IsDigits cs) : readDigits cs = some (Nat.ofDigitChars 10 cs 0) :=
  if_pos h

theorem readUnsigned_digits (h : IsDigits cs) :
    readUnsigned cs = some (Nat.ofDigitChars 10 cs 0 : ℚ) := by
  have hdrop : cs.dropWhile (· ≠ '.') = [] := List.dropWhile_eq_nil_iff.2 h.ne_point
  rw [readUnsigned, hdrop, readDigits_eq h]
  rfl

theorem readUnsigned_point (h : IsDigits whole) (h' : IsDigits fraction) :
    readUnsigned (whole ++ '.' :: fraction) =
      some (Nat.ofDigitChars 10 (whole ++ fraction) 0 / 10 ^ fraction.length : ℚ) := by
  have hdrop : (whole ++ '.' :: fraction).dropWhile (· ≠ '.') = '.' :: fraction := by
    rw [List.dropWhile_append_of_pos h.ne_point]
    simp
  have htake : (whole ++ '.' :: fraction).takeWhile (· ≠ '.') = whole := by
    rw [List.takeWhile_append_of_pos h.ne_point]
    simp
  have hvalue : (Nat.ofDigitChars 10 (whole ++ fraction) 0 : ℚ) =
      10 ^ fraction.length * Nat.ofDigitChars 10 whole 0 + Nat.ofDigitChars 10 fraction 0 := by
    rw [Nat.ofDigitChars_append, Nat.ofDigitChars_eq_ofDigitChars_zero]
    push_cast
    rfl
  have hpos : (10 : ℚ) ^ fraction.length ≠ 0 := by positivity
  rw [readUnsigned, hdrop, htake, hvalue, add_div, mul_div_cancel_left₀ _ hpos]
  simp only [readDigits_eq h, readDigits_eq h', Option.bind_some, Option.map_some]

/-- A numeral denotes its number. -/
theorem IsNumeral.readUnsigned_eq (h : IsNumeral cs x) : readUnsigned cs = some x := by
  rcases h with ⟨h, rfl⟩ | ⟨whole, fraction, rfl, h, h', rfl⟩
  · exact readUnsigned_digits h
  · exact readUnsigned_point h h'

theorem IsNumeral.exists_cons (h : IsNumeral cs x) : ∃ c r, cs = c :: r ∧ c.isDigit = true := by
  rcases h with ⟨h, -⟩ | ⟨whole, fraction, rfl, h, -, -⟩
  · obtain ⟨c, r, rfl⟩ := List.exists_cons_of_ne_nil h.1
    exact ⟨c, r, rfl, h.2 c List.mem_cons_self⟩
  · obtain ⟨c, r, rfl⟩ := List.exists_cons_of_ne_nil h.1
    exact ⟨c, r ++ '.' :: fraction, rfl, h.2 c List.mem_cons_self⟩

theorem IsNumeral.readNumeral_sign (h : IsNumeral cs x) (s : Bool) :
    readNumeral (Datum.sign s ++ cs) = some (if s then -x else x) := by
  have hread := h.readUnsigned_eq
  cases s with
  | true => simp [Datum.sign, readNumeral, hread]
  | false =>
    obtain ⟨c, r, rfl, hc⟩ := h.exists_cons
    have hne : c ≠ '-' := by
      rintro rfl
      exact absurd hc (by decide)
    simp [Datum.sign, readNumeral, hne, hread]

/-! ### Spelled digits -/

theorem isDigits_digitsOf (n : Nat) : IsDigits (digitsOf n) :=
  ⟨Nat.toDigits_ne_nil, fun _ hc => Nat.isDigit_of_mem_toDigits (by decide) (by decide) hc⟩

theorem ofDigitChars_digitsOf (n : Nat) : Nat.ofDigitChars 10 (digitsOf n) 0 = n :=
  Nat.ofDigitChars_ten_toDigits

/-- A number with digits before it starts with no zero. -/
theorem head_digitsOf {n : Nat} (hn : 0 < n) : (digitsOf n).head? ≠ some '0' := by
  induction n using Nat.strongRecOn with
  | ind n ih =>
    by_cases hsmall : n < 10
    · rw [digitsOf, Nat.toDigits_of_lt_base hsmall]
      interval_cases n <;> decide
    · have hfront := ih (n / 10) (Nat.div_lt_self hn (by decide)) (by omega)
      obtain ⟨c, r, hcons⟩ := List.exists_cons_of_ne_nil (isDigits_digitsOf (n / 10)).1
      rw [digitsOf, Nat.toDigits_of_base_le (by decide) (Nat.le_of_not_lt hsmall)]
      change (digitsOf (n / 10) ++ _).head? ≠ _
      rwa [hcons] at hfront ⊢

variable {width n : Nat}

theorem digitCount_le_iff (hw : 0 < width) : digitCount n ≤ width ↔ n < 10 ^ width := by
  rw [digitCount, Nat.length_toDigits_le_iff (by decide) hw]

theorem lt_pow_digitCount (n : Nat) : n < 10 ^ digitCount n :=
  (digitCount_le_iff Nat.length_toDigits_pos).1 le_rfl

theorem pow_digitCount_le (hn : 0 < n) : 10 ^ (digitCount n - 1) ≤ n := by
  rcases Nat.eq_zero_or_pos (digitCount n - 1) with hone | hmore
  · rwa [hone, Nat.pow_zero]
  · refine Nat.le_of_not_lt fun hlt => ?_
    have := (digitCount_le_iff hmore).2 hlt
    omega

theorem length_zeroPadded (hw : 0 < width) (hn : n < 10 ^ width) :
    (zeroPadded width n).length = width := by
  have hcount := (digitCount_le_iff hw).2 hn
  rw [zeroPadded, List.length_append, List.length_replicate]
  change width - digitCount n + digitCount n = width
  omega

theorem isDigit_of_mem_replicate {c : Char} {k : Nat} (hc : c ∈ List.replicate k '0') :
    c.isDigit = true := by
  rw [List.eq_of_mem_replicate hc]
  decide

theorem isDigits_replicate_append (k : Nat) (h : IsDigits cs) :
    IsDigits (List.replicate k '0' ++ cs) := by
  refine ⟨by simp [h.1], ?_⟩
  intro c hc
  rcases List.mem_append.1 hc with hc | hc
  · exact isDigit_of_mem_replicate hc
  · exact h.2 c hc

theorem isDigits_append_replicate (k : Nat) (h : IsDigits cs) :
    IsDigits (cs ++ List.replicate k '0') := by
  refine ⟨by simp [h.1], ?_⟩
  intro c hc
  rcases List.mem_append.1 hc with hc | hc
  · exact h.2 c hc
  · exact isDigit_of_mem_replicate hc

/-- A number with decimals, spelled from its smallest units. -/
theorem isNumeral_units (places units : Nat) (hplaces : 0 < places) :
    IsNumeral (digitsOf (units / 10 ^ places) ++ '.' :: zeroPadded places (units % 10 ^ places))
      (units / 10 ^ places) := by
  have hrest : units % 10 ^ places < 10 ^ places := Nat.mod_lt _ (by positivity)
  have hlength := length_zeroPadded hplaces hrest
  have hpadded : IsDigits (zeroPadded places (units % 10 ^ places)) :=
    isDigits_replicate_append _ (isDigits_digitsOf _)
  refine .inr ⟨_, _, rfl, isDigits_digitsOf _, hpadded, ?_⟩
  have hvalue : Nat.ofDigitChars 10
      (digitsOf (units / 10 ^ places) ++ zeroPadded places (units % 10 ^ places)) 0 = units := by
    rw [Nat.ofDigitChars_append, ofDigitChars_digitsOf, Nat.ofDigitChars_eq_ofDigitChars_zero,
      hlength, zeroPadded, Nat.ofDigitChars_append, Nat.ofDigitChars_replicate_zero, Nat.mul_zero,
      ofDigitChars_digitsOf]
    exact Nat.div_add_mod units (10 ^ places)
  rw [hvalue, hlength]

/-! ### Decimal numbers -/

namespace Decimal

variable (d : Decimal)

/-- The rational number that a decimal number stands for. -/
def value : ℚ := d.coefficient * 10 ^ d.exponent

theorem value_nonneg : 0 ≤ d.value :=
  mul_nonneg (Nat.cast_nonneg _) (zpow_nonneg (by norm_num) _)

/-- The digits of the coefficient are the significant ones and zeros behind them. -/
theorem exists_zeros : ∃ k, d.significant ++ List.replicate k '0' = digitsOf d.coefficient := by
  have hsplit : d.significant ++ (digitsOf d.coefficient).rtakeWhile (· == '0') =
      digitsOf d.coefficient := List.rdropWhile_append_rtakeWhile
  have hreplicate : (digitsOf d.coefficient).rtakeWhile (· == '0') =
      List.replicate ((digitsOf d.coefficient).rtakeWhile (· == '0')).length '0' := by
    refine List.eq_replicate_of_mem fun c hc => ?_
    exact eq_of_beq (List.mem_rtakeWhile_imp (p := (· == '0')) hc)
  exact ⟨_, hreplicate ▸ hsplit⟩

variable {d} in
theorem coefficient_eq {k : Nat}
    (h : d.significant ++ List.replicate k '0' = digitsOf d.coefficient) :
    d.coefficient = Nat.ofDigitChars 10 d.significant 0 * 10 ^ k := by
  conv_lhs => rw [← ofDigitChars_digitsOf d.coefficient, ← h, Nat.ofDigitChars_append,
    Nat.ofDigitChars_replicate_zero, Nat.mul_comm]

variable {d} in
theorem digitCount_coefficient {k : Nat}
    (h : d.significant ++ List.replicate k '0' = digitsOf d.coefficient) :
    digitCount d.coefficient = d.significant.length + k := by
  rw [← List.length_replicate (n := k) (a := '0'), ← List.length_append, h]
  rfl

/-- Without the zeros at its end, the coefficient denotes the number up to the place of the
point. -/
theorem significant_spec (h : d.coefficient ≠ 0) :
    IsDigits d.significant ∧
      d.value = Nat.ofDigitChars 10 d.significant 0 *
        10 ^ (d.pointPlace - d.significant.length) := by
  obtain ⟨k, hzeros⟩ := d.exists_zeros
  have hcoefficient := coefficient_eq hzeros
  have hplace : d.pointPlace - d.significant.length = k + d.exponent := by
    rw [pointPlace, digitCount_coefficient hzeros]
    push_cast
    ring
  refine ⟨⟨?_, ?_⟩, ?_⟩
  · intro hnil
    rw [hnil] at hcoefficient
    exact h (by simpa using hcoefficient)
  · intro c hc
    refine (isDigits_digitsOf d.coefficient).2 c ?_
    rw [← hzeros]
    exact List.mem_append_left _ hc
  · rw [value, hplace, zpow_add₀ (by norm_num), zpow_natCast, ← mul_assoc]
    congr 1
    exact_mod_cast hcoefficient

/-- **A decimal number, spelled without an exponent, is a numeral for it.** -/
theorem isNumeral_positional : IsNumeral d.positional d.value := by
  by_cases h : d.coefficient = 0
  · have hzero : d.positional = ['0'] := by simp [positional, h]
    refine .inl ⟨by rw [hzero]; decide, ?_⟩
    simp [hzero, value, h, Nat.ofDigitChars_cons]
  · obtain ⟨hdigits, hvalue⟩ := d.significant_spec h
    rw [hvalue]
    simp only [positional, if_neg h]
    generalize d.significant = ds at hdigits
    generalize d.pointPlace = point
    split_ifs with hwhole hpoint
    · -- zeros up to the point
      refine .inl ⟨isDigits_append_replicate _ hdigits, ?_⟩
      have hplace : point - ds.length = ((point.toNat - ds.length : Nat) : Int) := by omega
      rw [Nat.ofDigitChars_append, Nat.ofDigitChars_replicate_zero, hplace, zpow_natCast]
      push_cast
      ring
    · -- the point between the digits
      have hlength : (ds.drop point.toNat).length = ds.length - point.toNat := List.length_drop
      refine .inr ⟨_, _, rfl, ⟨?_, ?_⟩, ⟨?_, ?_⟩, ?_⟩
      · simp only [ne_eq, List.take_eq_nil_iff]
        have := List.length_pos_iff.2 hdigits.1
        rintro (h | h)
        · omega
        · exact hdigits.1 h
      · exact fun c hc => hdigits.2 c (List.mem_of_mem_take hc)
      · rw [ne_eq, List.drop_eq_nil_iff]
        omega
      · exact fun c hc => hdigits.2 c (List.mem_of_mem_drop hc)
      · have hplace : point - ds.length = -((ds.length - point.toNat : Nat) : Int) := by omega
        rw [List.take_append_drop, hlength, hplace, zpow_neg, zpow_natCast, div_eq_mul_inv]
    · -- zeros behind the point
      refine .inr ⟨['0'], _, rfl, by decide, isDigits_replicate_append _ hdigits, ?_⟩
      have hplace : point - ds.length = -(((-point).toNat + ds.length : Nat) : Int) := by omega
      have hvalue : Nat.ofDigitChars 10 (['0'] ++ (List.replicate (-point).toNat '0' ++ ds)) 0 =
          Nat.ofDigitChars 10 ds 0 := by
        rw [Nat.ofDigitChars_append, Nat.ofDigitChars_append, Nat.ofDigitChars_replicate_zero]
        simp [Nat.ofDigitChars_cons]
      rw [hvalue, List.length_append, List.length_replicate, hplace, zpow_neg, zpow_natCast,
        div_eq_mul_inv]

end Decimal

end ShaperDash
