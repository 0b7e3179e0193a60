import ShaperDash.Proofs.Number.Bounds
import ShaperDash.Proofs.Number.Rounded
import ShaperDash.Throughput

/-!
# Rates as rational numbers

A rate is made of rational numbers by five roundings: of the whole seconds, of the rest of a second,
of their sum, of the bytes, and of the quotient.  The whole part of the quotient is the rate, up to
the greatest word.  Times too long for a datum need no case of their own: then the quotient is a
zero, and in rational numbers less than one.

* `secondsOf_cases` : a time as a datum.
* `byteQuotient_ofSize` : **the quotient is a datum, never an infinity.**
* `rate_bitsPerSecond` : **the rate of a direction, as a function of two natural numbers.**
-/

namespace ShaperDash

variable {d : Datum} {n : Nat} {x : ℚ}

/-! ### Directions -/

/-- The two directions of traffic. -/
inductive Direction
  | down
  | up
  deriving DecidableEq, Repr

namespace Direction

/-- The counter of a direction. -/
def counter : Direction → Reading → UInt64
  | .down, r => r.received
  | .up, r => r.transmitted

/-- The rate of a direction. -/
def rate : Direction → Traffic → UInt64
  | .down, t => t.down
  | .up, t => t.up

/-- How much the counter of a direction grew. -/
def increase (dir : Direction) (before after : Reading) : Nat :=
  growth (dir.counter before) (dir.counter after)

end Direction

theorem rate_eq (dir : Direction) (before after : Reading) :
    dir.rate (bitsPerSecond before after) =
      if (secondsOf (after.instant - before.instant)).le (.finite false 0 0) then 0
      else rateOf (dir.increase before after) (secondsOf (after.instant - before.instant)) := by
  simp only [bitsPerSecond]
  cases dir with
  | down => split_ifs <;> rfl
  | up => split_ifs <;> rfl

theorem Direction.increase_lt (dir : Direction) (before after : Reading) :
    dir.increase before after < UInt64.size :=
  (Nat.sub_le ..).trans_lt (dir.counter after).toNat_lt_size

/-! ### Data -/

namespace Datum

theorem le_zero_iff (h : d.OfSize false x) : d.le (.finite false 0 0) = true ↔ x = 0 := by
  obtain ⟨m, e, rfl, rfl⟩ := h
  have hscale := two_zpow_pos e
  have hshift : 0 < Nat.pow 2 e.toNat := Nat.two_pow_pos _
  simp only [le, aligned, signed, Bool.false_eq_true, if_false, sub_zero, Nat.zero_mul,
    decide_eq_true_eq, scaled, mul_eq_zero, or_iff_left hscale.ne', Nat.cast_eq_zero]
  rw [Nat.cast_zero, ← Nat.cast_zero, Nat.cast_le, Nat.le_zero, Nat.mul_eq_zero,
    or_iff_left hshift.ne']

end Datum

/-! ### Seconds -/

/-- A number of nanoseconds in seconds, as 64-bit arithmetic has it. -/
def roundedSeconds (nanos : Nat) : ℚ :=
  binary64.nearest (binary64.nearest (nanos / 1000000000 : Nat) +
    binary64.nearest ((nanos % 1000000000 : Nat) / 1000000000))

/-- The rest of a second is less than a second after its rounding too. -/
theorem nearest_rest_lt_one (nanos : Nat) :
    binary64.nearest ((nanos % 1000000000 : Nat) / 1000000000) < 1 := by
  have hrest : nanos % 1000000000 < 1000000000 := Nat.mod_lt _ (by decide)
  have hle : ((nanos % 1000000000 : Nat) : ℚ) ≤ 999999999 := by
    exact_mod_cast Nat.le_of_lt_succ hrest
  have hnumber : binary64.HasNumber (scaled (2 ^ 53 - 1) (-53)) :=
    ⟨_, _, by decide, by decide, rfl⟩
  refine (Format.nearest_le (by positivity) hnumber ?_).trans_lt ?_
  · rw [div_le_iff₀ (by norm_num), scaled]
    norm_num
    linarith
  · norm_num [scaled]

/-- A time that is not zero is no less than a part of a second, before its last rounding. -/
theorem two_zpow_le_parts (hn : 0 < n) :
    2 ^ (-30 : Int) ≤ binary64.nearest (n / 1000000000 : Nat) +
      binary64.nearest ((n % 1000000000 : Nat) / 1000000000) := by
  by_cases hwhole : 0 < n / 1000000000
  · have hone : (1 : ℚ) ≤ (n / 1000000000 : Nat) := by exact_mod_cast hwhole
    calc (2 : ℚ) ^ (-30 : Int) ≤ 1 := zpow_le_one_of_nonpos₀ one_le_two (by decide)
      _ ≤ binary64.nearest (n / 1000000000 : Nat) := Format.one_le_nearest hone
      _ ≤ _ := le_add_of_nonneg_right Format.nearest_nonneg
  · have hrest : 1 ≤ n % 1000000000 := by omega
    refine (Format.two_zpow_le_nearest (by decide) ?_).trans
      (le_add_of_nonneg_left Format.nearest_nonneg)
    have hrest' : (1 : ℚ) ≤ (n % 1000000000 : Nat) := by exact_mod_cast hrest
    rw [le_div_iff₀ (by norm_num)]
    refine le_trans ?_ hrest'
    norm_num

theorem two_zpow_le_roundedSeconds (hn : 0 < n) : 2 ^ (-30 : Int) ≤ roundedSeconds n :=
  Format.two_zpow_le_nearest (by decide) (two_zpow_le_parts hn)

/-- A time as a datum: its number of seconds, or an infinity if that is beyond the format. -/
theorem secondsOf_cases (nanos : Nat) :
    (secondsOf nanos).OfSize false (roundedSeconds nanos) ∨
      secondsOf nanos = .infinite false ∧ (2 : ℚ) ^ (1000 : Int) ≤ roundedSeconds nanos := by
  have hinside : (2 : ℚ) ^ (1000 : Int) ≤ 2 ^ (binary64.precision + (binary64.maxExponent - 1)) :=
    zpow_le_zpow_right₀ one_le_two (by decide)
  have hunit := Format.ofNat_eq (n := 1000000000) (by decide)
  have hrest := Format.ofNat_eq (n := nanos % 1000000000)
    ((Nat.mod_lt _ (by decide)).le.trans (by decide))
  have hquotient : ((nanos % 1000000000 : Nat) / (1000000000 : Nat) : ℚ) ≤ 1 := by
    rw [div_le_one (by norm_num)]
    exact_mod_cast (Nat.mod_lt _ (by decide)).le
  have hpart := Format.div_ofSize (f := binary64) hrest hunit (by norm_num)
    (hquotient.trans ((one_le_zpow₀ one_le_two (by decide)).trans hinside))
  rw [Nat.cast_ofNat] at hpart
  rcases Format.ofNat_cases (f := binary64) (nanos / 1000000000) with hwhole | ⟨hwhole, hbeyond⟩
  · rcases Format.add_cases (f := binary64) hwhole hpart with hsum | ⟨hsum, hbeyond⟩
    · exact .inl hsum
    · exact .inr ⟨hsum, Format.two_zpow_le_nearest (by decide) (hinside.trans hbeyond.le)⟩
  · refine .inr ⟨?_, Format.two_zpow_le_nearest (by decide) ?_⟩
    · obtain ⟨m, e, hfinite, -⟩ := hpart
      rw [secondsOf, hwhole, hfinite]
      rfl
    · exact (Format.two_zpow_le_nearest (by decide) (hinside.trans hbeyond.le)).trans
        (le_add_of_nonneg_right Format.nearest_nonneg)

theorem secondsOf_le_zero_iff (n : Nat) : (secondsOf n).le (.finite false 0 0) = true ↔ n = 0 := by
  constructor
  · intro hle
    by_contra hne
    have hpos := (two_zpow_pos (-30)).trans_le (two_zpow_le_roundedSeconds (Nat.pos_of_ne_zero hne))
    rcases secondsOf_cases n with hseconds | ⟨hseconds, -⟩
    · exact hpos.ne' ((Datum.le_zero_iff hseconds).1 hle)
    · rw [hseconds] at hle
      exact absurd hle (by decide)
  · rintro rfl
    decide +kernel

/-! ### Rates -/

/-- The quotient of bits and seconds, as a datum. -/
def byteQuotient (bytes nanos : Nat) : Datum :=
  binary64.div (binary64.mul (binary64.ofNat bytes) (binary64.ofNat 8)) (secondsOf nanos)

/-- The quotient of bits and seconds, as 64-bit arithmetic has it. -/
def roundedRate (bytes nanos : Nat) : ℚ :=
  binary64.nearest (8 * binary64.nearest bytes / roundedSeconds nanos)

/-- Eight times a number of the format is one too. -/
theorem nearest_eight_mul (hx : 0 ≤ x) :
    binary64.nearest (binary64.nearest x * 8) = 8 * binary64.nearest x := by
  rcases hx.lt_or_eq with hpos | rfl
  · obtain ⟨m, e, hcanonical, hvalue⟩ := Format.exists_canonical_nearest (f := binary64) hpos
    have height : scaled m (e + 3) = binary64.nearest x * 8 := by
      rw [← hvalue, scaled, scaled, zpow_add₀ two_ne_zero]
      norm_num
      ring
    have hnumber : binary64.HasNumber (binary64.nearest x * 8) :=
      ⟨m, e + 3, hcanonical.1, by have := hcanonical.2.1; omega, height⟩
    rw [Format.nearest_eq (mul_nonneg Format.nearest_nonneg (by norm_num)) hnumber, mul_comm]
  · simp

theorem nearest_bytes_le {bytes : Nat} (h : bytes < UInt64.size) :
    8 * binary64.nearest bytes ≤ 2 ^ (67 : Int) := by
  have hle : (bytes : ℚ) ≤ 2 ^ (64 : Int) := by exact_mod_cast h.le
  have hnear := Format.nearest_le_two_zpow (Nat.cast_nonneg bytes) (by decide) hle
  have hpower : (2 : ℚ) ^ (67 : Int) = 8 * 2 ^ (64 : Int) := by norm_num
  linarith

theorem bits_ofSize {bytes : Nat} (h : bytes < UInt64.size) :
    (binary64.mul (binary64.ofNat bytes) (binary64.ofNat 8)).OfSize false
      (8 * binary64.nearest bytes) := by
  have hinside : (2 : ℚ) ^ (67 : Int) ≤ 2 ^ (binary64.precision + (binary64.maxExponent - 1)) :=
    zpow_le_zpow_right₀ one_le_two (by decide)
  have hbytes : (bytes : ℚ) ≤ 2 ^ (67 : Int) := by
    have hle : (bytes : ℚ) ≤ 2 ^ (64 : Int) := by exact_mod_cast h.le
    exact hle.trans (zpow_le_zpow_right₀ one_le_two (by decide))
  have hbits := nearest_bytes_le h
  rw [mul_comm] at hbits
  have hmul := Format.mul_ofSize (f := binary64) (Format.ofNat_ofSize (hbytes.trans hinside))
    (Format.ofNat_eq (n := 8) (by decide)) (hbits.trans hinside)
  rwa [Nat.cast_ofNat, nearest_eight_mul (Nat.cast_nonneg bytes)] at hmul

/-- **The quotient is a datum, never an infinity**, and its whole part is that of the rational
number. -/
theorem byteQuotient_ofSize {bytes nanos : Nat} (hbytes : bytes < UInt64.size)
    (hnanos : 0 < nanos) :
    ∃ q, (byteQuotient bytes nanos).OfSize false q ∧ ⌊q⌋₊ = ⌊roundedRate bytes nanos⌋₊ := by
  have hbits := bits_ofSize hbytes
  have hbitsLe := nearest_bytes_le hbytes
  have hbitsNonneg : 0 ≤ 8 * binary64.nearest bytes :=
    mul_nonneg (by norm_num) Format.nearest_nonneg
  have hlow := two_zpow_le_roundedSeconds hnanos
  have hpos := (two_zpow_pos (-30)).trans_le hlow
  rcases secondsOf_cases nanos with hseconds | ⟨hseconds, hhuge⟩
  · have hquotient : 8 * binary64.nearest bytes / roundedSeconds nanos ≤
        2 ^ (binary64.precision + (binary64.maxExponent - 1)) :=
      calc 8 * binary64.nearest bytes / roundedSeconds nanos
          ≤ 2 ^ (67 : Int) / 2 ^ (-30 : Int) :=
            div_le_div₀ (two_zpow_pos _).le hbitsLe (two_zpow_pos _) hlow
        _ = 2 ^ (97 : Int) := by rw [← zpow_sub₀ two_ne_zero]; rfl
        _ ≤ _ := zpow_le_zpow_right₀ one_le_two (by decide)
    exact ⟨_, Format.div_ofSize (f := binary64) hbits hseconds hpos.ne' hquotient, rfl⟩
  · -- a zero, and in rational numbers less than one
    obtain ⟨m, e, hfinite, -⟩ := hbits
    refine ⟨0, ⟨0, binary64.minExponent, ?_, by simp [scaled]⟩, ?_⟩
    · rw [byteQuotient, hfinite, hseconds]
      rfl
    · have hquotient : 8 * binary64.nearest bytes / roundedSeconds nanos ≤ 2 ^ (-1 : Int) :=
        calc 8 * binary64.nearest bytes / roundedSeconds nanos
            ≤ 2 ^ (67 : Int) / 2 ^ (1000 : Int) :=
              div_le_div₀ (two_zpow_pos _).le hbitsLe (two_zpow_pos _) hhuge
          _ = 2 ^ (-933 : Int) := by rw [← zpow_sub₀ two_ne_zero]; rfl
          _ ≤ _ := zpow_le_zpow_right₀ one_le_two (by decide)
      have hrate : roundedRate bytes nanos ≤ 2 ^ (-1 : Int) :=
        Format.nearest_le_two_zpow (div_nonneg hbitsNonneg hpos.le) (by decide) hquotient
      rw [Nat.floor_zero, eq_comm, Nat.floor_eq_zero]
      exact hrate.trans_lt (by norm_num)

theorem rateOf_toNat {bytes nanos : Nat} (hbytes : bytes < UInt64.size) (hnanos : 0 < nanos) :
    (rateOf bytes (secondsOf nanos)).toNat = min (UInt64.size - 1) ⌊roundedRate bytes nanos⌋₊ := by
  obtain ⟨q, hquotient, hfloor⟩ := byteQuotient_ofSize hbytes hnanos
  have htruncate := Datum.truncate_ofSize hquotient (UInt64.size - 1)
  have hlt : (byteQuotient bytes nanos).truncate (UInt64.size - 1) < UInt64.size := by
    rw [htruncate]
    exact (Nat.min_le_left ..).trans_lt (by decide)
  rw [← hfloor, ← htruncate]
  exact UInt64.toNat_ofNat_of_lt hlt

/-- **The rate of a direction**, from what its counter grew and the time that passed. -/
theorem rate_bitsPerSecond (dir : Direction) {before after : Reading}
    (h : before.instant < after.instant) :
    (dir.rate (bitsPerSecond before after)).toNat = min (UInt64.size - 1)
      ⌊roundedRate (dir.increase before after) (after.instant - before.instant)⌋₊ := by
  have hnanos : 0 < after.instant - before.instant := Nat.sub_pos_of_lt h
  have hpassed : ¬ (secondsOf (after.instant - before.instant)).le (.finite false 0 0) = true := by
    rw [secondsOf_le_zero_iff]
    exact hnanos.ne'
  rw [rate_eq, if_neg hpassed, rateOf_toNat (dir.increase_lt before after) hnanos]

/-- No time, no rate. -/
theorem bitsPerSecond_of_le {before after : Reading} (h : after.instant ≤ before.instant) :
    bitsPerSecond before after = ⟨0, 0⟩ := by
  have hpassed : (secondsOf (after.instant - before.instant)).le (.finite false 0 0) = true := by
    rw [secondsOf_le_zero_iff]
    exact Nat.sub_eq_zero_of_le h
  simp only [bitsPerSecond]
  rw [if_pos hpassed]

end ShaperDash
