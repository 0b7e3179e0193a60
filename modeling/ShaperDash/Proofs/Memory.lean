import ShaperDash.Proofs.Number.Bounds
import ShaperDash.Proofs.Number.Rounded
import ShaperDash.SystemSample

/-!
# Memory in use

The percentage of the memory in use is made of two words by four roundings: of the bytes in use,
of all bytes, of their quotient, and of a hundred times the quotient.  The first two may go in
different directions, but each of them keeps the order, and a hundred is a number that rounding
leaves alone.  So the percentage keeps the order, and it is on the same side of a hundred as the
bytes in use are of all bytes.

* `roundedPercent_mono` : more bytes in use of no more bytes are no smaller percentage.
* `SystemSample.ramPercent_ofSize` : the percentage as a function of two natural numbers.
* `SystemSample.ramPercent_ordered` : **the percentage is a number, it keeps the order, and it is a
  hundred for all of the memory.**
-/

namespace ShaperDash

variable {used used' total total' : Nat}

/-! ### The percentage as a rational number -/

/-- The part of the bytes that is in use, as 64-bit arithmetic has it. -/
def roundedPart (used total : Nat) : ℚ :=
  binary64.nearest (binary64.nearest used / binary64.nearest total)

/-- That part in percent. -/
def roundedPercent (used total : Nat) : ℚ := binary64.nearest (roundedPart used total * 100)

theorem one_le_nearest_natCast (h : 0 < total) : 1 ≤ binary64.nearest total :=
  Format.one_le_nearest (by exact_mod_cast h)

theorem roundedPart_mono (hused : used ≤ used') (htotal : total' ≤ total) (hpos : 0 < total') :
    roundedPart used total ≤ roundedPart used' total' := by
  have hmore : binary64.nearest used ≤ binary64.nearest used' :=
    Format.nearest_mono (Nat.cast_nonneg used) (Nat.cast_le.2 hused)
  have hless : binary64.nearest total' ≤ binary64.nearest total :=
    Format.nearest_mono (Nat.cast_nonneg total') (Nat.cast_le.2 htotal)
  have hone := zero_lt_one.trans_le (one_le_nearest_natCast hpos)
  refine Format.nearest_mono (div_nonneg Format.nearest_nonneg Format.nearest_nonneg) ?_
  exact div_le_div₀ Format.nearest_nonneg hmore hone hless

/-- More bytes in use of no more bytes are no smaller percentage. -/
theorem roundedPercent_mono (hused : used ≤ used') (htotal : total' ≤ total) (hpos : 0 < total') :
    roundedPercent used total ≤ roundedPercent used' total' := by
  have hpart := roundedPart_mono hused htotal hpos
  refine Format.nearest_mono (mul_nonneg Format.nearest_nonneg (by norm_num)) ?_
  exact mul_le_mul_of_nonneg_right hpart (by norm_num)

/-- All of the memory is a hundred percent, however the number of its bytes is rounded. -/
theorem roundedPercent_self (hpos : 0 < total) : roundedPercent total total = 100 := by
  have hne := (zero_lt_one.trans_le (one_le_nearest_natCast hpos)).ne'
  rw [roundedPercent, roundedPart, div_self hne, Format.nearest_one, one_mul,
    Format.nearest_hundred]

theorem roundedPercent_le (hle : used ≤ total) (hpos : 0 < total) :
    roundedPercent used total ≤ 100 :=
  (roundedPercent_mono hle le_rfl hpos).trans_eq (roundedPercent_self hpos)

theorem le_roundedPercent (hle : total ≤ used) (hpos : 0 < total) :
    100 ≤ roundedPercent used total :=
  (roundedPercent_self hpos).ge.trans (roundedPercent_mono hle le_rfl hpos)

/-! ### The percentage as a datum -/

/-- The part is no more than all bytes that there can be, so that nothing is out of range. -/
theorem roundedPart_le (hused : used < UInt64.size) (hpos : 0 < total) :
    binary64.nearest used / binary64.nearest total ≤ 2 ^ (64 : Int) ∧
      roundedPart used total ≤ 2 ^ (64 : Int) := by
  have hle : (used : ℚ) ≤ 2 ^ (64 : Int) := by exact_mod_cast hused.le
  have hnear := Format.nearest_le_two_zpow (Nat.cast_nonneg used) (by decide) hle
  have hquotient : binary64.nearest used / binary64.nearest total ≤ 2 ^ (64 : Int) :=
    (div_le_self Format.nearest_nonneg (one_le_nearest_natCast hpos)).trans hnear
  refine ⟨hquotient, Format.nearest_le_two_zpow ?_ (by decide) hquotient⟩
  exact div_nonneg Format.nearest_nonneg Format.nearest_nonneg

namespace SystemSample

variable {s : SystemSample}

theorem ramPercent_of_none (h : s.ramTotal = 0) : s.ramPercent = binary64.ofNat 0 := by
  have hzero : binary64.ofNat 0 = .finite false 0 binary64.minExponent := by decide +kernel
  rw [ramPercent, if_pos h, hzero]

theorem ramPercent_of_some (h : 0 < s.ramTotal) :
    s.ramPercent = binary64.mul
      (binary64.div (binary64.ofNat s.ramUsed.toNat) (binary64.ofNat s.ramTotal.toNat))
      (binary64.ofNat 100) := by
  rw [ramPercent, if_neg (UInt64.pos_iff_ne_zero.1 h)]

/-- **The percentage as a function of two natural numbers.** -/
theorem ramPercent_ofSize (h : 0 < s.ramTotal) :
    s.ramPercent.OfSize false (roundedPercent s.ramUsed.toNat s.ramTotal.toNat) := by
  have hpos : 0 < s.ramTotal.toNat := UInt64.lt_iff_toNat_lt.1 h
  obtain ⟨hquotient, hpart⟩ := roundedPart_le s.ramUsed.toNat_lt_size hpos
  have hinside : (2 : ℚ) ^ (71 : Int) ≤ 2 ^ (binary64.precision + (binary64.maxExponent - 1)) :=
    zpow_le_zpow_right₀ one_le_two (by decide)
  have hrange : (2 : ℚ) ^ (64 : Int) ≤ 2 ^ (71 : Int) := zpow_le_zpow_right₀ one_le_two (by decide)
  have hword : ∀ w : UInt64, (binary64.ofNat w.toNat).OfSize false (binary64.nearest w.toNat) := by
    intro w
    have hle : (w.toNat : ℚ) ≤ 2 ^ (64 : Int) := by exact_mod_cast w.toNat_lt_size.le
    exact Format.ofNat_ofSize ((hle.trans hrange).trans hinside)
  have hproduct : roundedPart s.ramUsed.toNat s.ramTotal.toNat * 100 ≤ 2 ^ (71 : Int) :=
    calc roundedPart s.ramUsed.toNat s.ramTotal.toNat * 100
        ≤ 2 ^ (64 : Int) * 100 := mul_le_mul_of_nonneg_right hpart (by norm_num)
      _ ≤ 2 ^ (71 : Int) := by norm_num
  have hone := zero_lt_one.trans_le (one_le_nearest_natCast hpos)
  have hdiv := Format.div_ofSize (f := binary64) (hword s.ramUsed) (hword s.ramTotal) hone.ne'
    ((hquotient.trans hrange).trans hinside)
  rw [ramPercent_of_some h]
  exact Format.mul_ofSize hdiv Format.hundred_ofSize (hproduct.trans hinside)

/-- The percentage is one of the 64-bit data. -/
theorem holds_ramPercent (s : SystemSample) : binary64.Holds s.ramPercent := by
  by_cases h : s.ramTotal = 0
  · rw [ramPercent_of_none h]
    exact Format.holds_ofNat 0
  · rw [ramPercent_of_some (UInt64.pos_iff_ne_zero.2 h)]
    exact Format.holds_mul _ _

/-- It is neither infinite nor negative. -/
theorem ramPercent_finite (s : SystemSample) : ∃ m e, s.ramPercent = .finite false m e := by
  by_cases h : s.ramTotal = 0
  · exact ⟨_, _, if_pos h⟩
  · obtain ⟨m, e, hnumber, -⟩ := ramPercent_ofSize (UInt64.pos_iff_ne_zero.2 h)
    exact ⟨m, e, hnumber⟩

/-- **The percentage of the memory in use is a number that keeps the order.**  Whatever was
measured,

* it is one of the finite 64-bit numbers and not negative, and zero if there is no memory;
* it is at most a hundred if no more is in use than there is, at least a hundred if no less is, and
  exactly a hundred if just as much is;
* it is no smaller where no less is in use of no more memory, however close the numbers of bytes
  are to each other and whichever way they are rounded. -/
theorem ramPercent_ordered (s : SystemSample) :
    (∃ m e, s.ramPercent = .finite false m e ∧ binary64.Canonical m e ∧
      e ≤ binary64.maxExponent) ∧
    (s.ramTotal = 0 → s.ramPercent = binary64.ofNat 0) ∧
    (s.ramUsed ≤ s.ramTotal → s.ramPercent.le (binary64.ofNat 100) = true) ∧
    (0 < s.ramTotal → s.ramTotal ≤ s.ramUsed → (binary64.ofNat 100).le s.ramPercent = true) ∧
    (0 < s.ramTotal → s.ramUsed = s.ramTotal → s.ramPercent = binary64.ofNat 100) ∧
    ∀ t : SystemSample, 0 < s.ramTotal → 0 < t.ramTotal → s.ramUsed ≤ t.ramUsed →
      t.ramTotal ≤ s.ramTotal → s.ramPercent.le t.ramPercent = true := by
  refine ⟨?_, ramPercent_of_none, fun hused => ?_, fun hpos htotal => ?_, fun hpos hall => ?_,
    fun t hpos hpos' hused htotal => ?_⟩
  · obtain ⟨m, e, hnumber⟩ := ramPercent_finite s
    exact ⟨m, e, hnumber, holds_ramPercent s false m e hnumber⟩
  · by_cases h : s.ramTotal = 0
    · rw [ramPercent_of_none h]
      decide +kernel
    · have hpos : 0 < s.ramTotal := UInt64.pos_iff_ne_zero.2 h
      rw [(ramPercent_ofSize hpos).le_iff Format.hundred_ofSize]
      exact roundedPercent_le (UInt64.le_iff_toNat_le.1 hused) (UInt64.lt_iff_toNat_lt.1 hpos)
  · rw [Format.hundred_ofSize.le_iff (ramPercent_ofSize hpos)]
    exact le_roundedPercent (UInt64.le_iff_toNat_le.1 htotal) (UInt64.lt_iff_toNat_lt.1 hpos)
  · refine (holds_ramPercent s).eq (Format.holds_ofNat 100) (ramPercent_ofSize hpos) ?_
    rw [hall, roundedPercent_self (UInt64.lt_iff_toNat_lt.1 hpos)]
    exact Format.hundred_ofSize
  · rw [(ramPercent_ofSize hpos).le_iff (ramPercent_ofSize hpos')]
    exact roundedPercent_mono (UInt64.le_iff_toNat_le.1 hused) (UInt64.le_iff_toNat_le.1 htotal)
      (UInt64.lt_iff_toNat_lt.1 hpos')

/-- One and three bytes more than `2 ^ 53`, of which the first number is rounded down and the second
up; the greatest words; and no memory at all. -/
theorem ramPercent_ordered_beyond_exact :
    let s : SystemSample := ⟨[], 9007199254740993, 9007199254740995⟩
    let t : SystemSample := ⟨[], 9007199254740995, 9007199254740993⟩
    let all : SystemSample := ⟨[], 18446744073709551615, 18446744073709551615⟩
    (0 < s.ramTotal ∧ 0 < t.ramTotal ∧ s.ramUsed ≤ s.ramTotal ∧ t.ramTotal ≤ t.ramUsed ∧
      s.ramUsed ≤ t.ramUsed ∧ t.ramTotal ≤ s.ramTotal) ∧
    s.ramPercent.le (binary64.ofNat 100) = true ∧ (binary64.ofNat 100).le t.ramPercent = true ∧
    s.ramPercent.le t.ramPercent = true ∧
    (0 < all.ramTotal ∧ all.ramPercent = binary64.ofNat 100) ∧
    SystemSample.empty.ramPercent = binary64.ofNat 0 := by
  intro s t all
  obtain ⟨-, -, hatmost, -, -, hordered⟩ := ramPercent_ordered s
  obtain ⟨-, -, -, hatleast, -⟩ := ramPercent_ordered t
  obtain ⟨-, -, -, -, hall, -⟩ := ramPercent_ordered all
  obtain ⟨-, hnone, -⟩ := ramPercent_ordered .empty
  refine ⟨by decide, hatmost (by decide), hatleast (by decide) (by decide),
    hordered t (by decide) (by decide) (by decide) (by decide), ⟨by decide, ?_⟩, hnone rfl⟩
  exact hall (by decide) rfl

end SystemSample

end ShaperDash
