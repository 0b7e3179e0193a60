import ShaperDash.Proofs.Throughput.Rates

/-!
# Rates are accurate

Every rounding on the way to a rate changes a number by a part of `2 ^ 53` at most, in either
direction, and such changes add up through sums, multiples and quotients (`UpToRounding`).  Four of
them are less than a part of `2 ^ 50`.  When the seconds are whole and the numbers small, only the
quotient is rounded, and it stays below the next whole number.

* `UpToRounding.trans`, `UpToRounding.add`, `UpToRounding.div` : how roundings add up.
* `upToRounding_roundedSeconds` : seconds are two roundings away from the time.
* `floor_nearest_div` : **a quotient of small natural numbers is never lifted to the next one.**
* `bitsPerSecond_accurate` : **a rate is the bits per second, up to a part of `2 ^ 50` and the
  cut to a whole number; in whole seconds and small numbers, it is exactly their whole part.**
-/

namespace ShaperDash

/-! ### Numbers that differ by roundings -/

/-- What a rounding leaves of a number, or a number of its rounding, at least. -/
def kept : ℚ := 1 - 1 / 2 ^ 53

/-- `x` and `y` differ by no more than `k` roundings. -/
def UpToRounding (k : Nat) (x y : ℚ) : Prop := kept ^ k * y ≤ x ∧ kept ^ k * x ≤ y

variable {j k : Nat} {x x' y y' z : ℚ}

theorem kept_pos : 0 < kept := by norm_num [kept]

theorem kept_le_one : kept ≤ 1 := by norm_num [kept]

namespace UpToRounding

theorem refl (hx : 0 ≤ x) (k : Nat) : UpToRounding k x x := by
  have hle : kept ^ k * x ≤ x := mul_le_of_le_one_left hx (pow_le_one₀ kept_pos.le kept_le_one)
  exact ⟨hle, hle⟩

theorem trans (h : UpToRounding j x y) (h' : UpToRounding k y z) : UpToRounding (j + k) x z := by
  have hj : 0 ≤ kept ^ j := (pow_pos kept_pos j).le
  have hk : 0 ≤ kept ^ k := (pow_pos kept_pos k).le
  refine ⟨?_, ?_⟩
  · calc kept ^ (j + k) * z = kept ^ j * (kept ^ k * z) := by rw [pow_add, mul_assoc]
      _ ≤ kept ^ j * y := mul_le_mul_of_nonneg_left h'.1 hj
      _ ≤ x := h.1
  · calc kept ^ (j + k) * x = kept ^ k * (kept ^ j * x) := by rw [pow_add]; ring
      _ ≤ kept ^ k * y := mul_le_mul_of_nonneg_left h.2 hk
      _ ≤ z := h'.2

theorem add (h : UpToRounding k x y) (h' : UpToRounding k x' y') :
    UpToRounding k (x + x') (y + y') := by
  refine ⟨?_, ?_⟩
  · rw [mul_add]
    exact add_le_add h.1 h'.1
  · rw [mul_add]
    exact add_le_add h.2 h'.2

theorem mul_left {c : ℚ} (hc : 0 ≤ c) (h : UpToRounding k x y) :
    UpToRounding k (c * x) (c * y) := by
  refine ⟨?_, ?_⟩
  · rw [mul_left_comm]
    exact mul_le_mul_of_nonneg_left h.1 hc
  · rw [mul_left_comm]
    exact mul_le_mul_of_nonneg_left h.2 hc

theorem div (h : UpToRounding j x y) (h' : UpToRounding k x' y') (hx : 0 ≤ x) (hy : 0 ≤ y)
    (hx' : 0 < x') (hy' : 0 < y') : UpToRounding (j + k) (x / x') (y / y') := by
  have hquotient : ∀ {a a' b b' : ℚ}, kept ^ j * b ≤ a → kept ^ k * a' ≤ b' → 0 ≤ a → 0 < a' →
      0 < b' → kept ^ (j + k) * (b / b') ≤ a / a' := by
    intro a a' b b' hab hab' ha ha' hb'
    rw [mul_div_assoc', div_le_div_iff₀ hb' ha']
    calc kept ^ (j + k) * b * a' = kept ^ j * b * (kept ^ k * a') := by rw [pow_add]; ring
      _ ≤ a * b' := mul_le_mul hab hab' (mul_nonneg (pow_pos kept_pos k).le ha'.le) ha
  exact ⟨hquotient h.1 h'.2 hx hx' hy', hquotient h.2 h'.1 hy hy' hx'⟩

end UpToRounding

/-- A number that is not too close to zero is one rounding away from its nearest number. -/
theorem upToRounding_nearest (hx : 2 ^ (-1022 : Int) ≤ x) :
    UpToRounding 1 (binary64.nearest x) x := by
  have hpos : 0 < x := (two_zpow_pos _).trans_le hx
  obtain ⟨hlow, hhigh⟩ := abs_le.1 (Format.abs_nearest_sub_le_div (f := binary64) hx)
  have hprecision : (2 : ℚ) ^ binary64.precision = 2 ^ 53 := rfl
  rw [hprecision] at hlow hhigh
  rw [UpToRounding, pow_one]
  refine ⟨?_, ?_⟩
  · have hkept : kept * x = x - x / 2 ^ 53 := by rw [kept]; ring
    rw [hkept]
    linarith
  · have hle : binary64.nearest x ≤ (1 + 1 / 2 ^ 53) * x := by linarith
    calc kept * binary64.nearest x ≤ kept * ((1 + 1 / 2 ^ 53) * x) :=
          mul_le_mul_of_nonneg_left hle kept_pos.le
      _ = (1 - 1 / 2 ^ 106) * x := by rw [kept]; ring
      _ ≤ x := mul_le_of_le_one_left hpos.le (by norm_num)

/-! ### The seconds and the quotient -/

theorem upToRounding_natCast (n : Nat) : UpToRounding 1 (binary64.nearest n) n := by
  rcases Nat.eq_zero_or_pos n with rfl | hn
  · rw [Nat.cast_zero, Format.nearest_zero]
    exact UpToRounding.refl le_rfl 1
  · refine upToRounding_nearest (le_trans (zpow_le_one_of_nonpos₀ one_le_two (by decide)) ?_)
    exact_mod_cast hn

/-- The seconds are two roundings away from the time. -/
theorem upToRounding_roundedSeconds {n : Nat} (hn : 0 < n) :
    UpToRounding 2 (roundedSeconds n) (n / 1000000000) := by
  have hsum : (n / 1000000000 : ℚ) = (n / 1000000000 : Nat) +
      (n % 1000000000 : Nat) / 1000000000 := by
    have hsplit : ((1000000000 * (n / 1000000000) + n % 1000000000 : Nat) : ℚ) = n := by
      rw [Nat.div_add_mod]
    push_cast at hsplit
    linarith
  have hrest : UpToRounding 1 (binary64.nearest ((n % 1000000000 : Nat) / 1000000000))
      ((n % 1000000000 : Nat) / 1000000000) := by
    rcases Nat.eq_zero_or_pos (n % 1000000000) with hzero | hpos
    · rw [hzero, Nat.cast_zero, zero_div, Format.nearest_zero]
      exact UpToRounding.refl le_rfl 1
    · have hone : (1 : ℚ) ≤ (n % 1000000000 : Nat) := by exact_mod_cast hpos
      refine upToRounding_nearest ?_
      calc (2 : ℚ) ^ (-1022 : Int) ≤ 2 ^ (-30 : Int) := zpow_le_zpow_right₀ one_le_two (by decide)
        _ ≤ 1 / 1000000000 := by norm_num
        _ ≤ _ := div_le_div_of_nonneg_right hone (by norm_num)
  have hparts := (upToRounding_natCast (n / 1000000000)).add hrest
  rw [← hsum] at hparts
  have hnormal : (2 : ℚ) ^ (-1022 : Int) ≤ 2 ^ (-30 : Int) :=
    zpow_le_zpow_right₀ one_le_two (by decide)
  exact (upToRounding_nearest (hnormal.trans (two_zpow_le_parts hn))).trans hparts

/-- So many bytes in so many nanoseconds are so many bits per second. -/
def bitRate (bytes nanos : Nat) : ℚ := 8 * bytes * 1000000000 / nanos

variable {nanos n s : Nat}

theorem bitRate_nonneg (bytes nanos : Nat) : 0 ≤ bitRate bytes nanos := by
  rw [bitRate]
  positivity

/-- The quotient is three roundings away from the bits per second, before its own. -/
theorem upToRounding_quotient (bytes : Nat) (hn : 0 < nanos) :
    UpToRounding 3 (8 * binary64.nearest bytes / roundedSeconds nanos) (bitRate bytes nanos) := by
  have hnanos : (0 : ℚ) < nanos := by exact_mod_cast hn
  have hseconds := (two_zpow_pos (-30)).trans_le (two_zpow_le_roundedSeconds hn)
  have hbits := (upToRounding_natCast bytes).mul_left (c := 8) (by norm_num)
  have hquotient := hbits.div (upToRounding_roundedSeconds hn)
    (mul_nonneg (by norm_num) Format.nearest_nonneg) (by positivity) hseconds (by positivity)
  rwa [div_div_eq_mul_div, ← bitRate] at hquotient

/-- **The whole part of the quotient** is the bits per second up to a part of `2 ^ 50` and the
cut. -/
theorem floor_roundedRate_bounds (bytes : Nat) (hn : 0 < nanos) :
    (1 - 1 / 2 ^ 50) * bitRate bytes nanos - 1 < ⌊roundedRate bytes nanos⌋₊ ∧
      ⌊roundedRate bytes nanos⌋₊ ≤ (1 + 1 / 2 ^ 50) * bitRate bytes nanos := by
  have hquotient := upToRounding_quotient bytes hn
  have hrate := bitRate_nonneg bytes nanos
  have hnonneg : 0 ≤ 8 * binary64.nearest bytes / roundedSeconds nanos :=
    div_nonneg (mul_nonneg (by norm_num) Format.nearest_nonneg) Format.nearest_nonneg
  rw [roundedRate]
  generalize 8 * binary64.nearest bytes / roundedSeconds nanos = q at hquotient hnonneg
  generalize bitRate bytes nanos = r at hquotient hrate
  by_cases hlarge : 2 ^ (-1 : Int) ≤ q
  · have hnear : UpToRounding 4 (binary64.nearest q) r :=
      (upToRounding_nearest ((zpow_le_zpow_right₀ one_le_two (by decide)).trans hlarge)).trans
        hquotient
    have hfloor := Nat.floor_le (Format.nearest_nonneg (f := binary64) (x := q))
    have hcut := Nat.lt_floor_add_one (binary64.nearest q)
    have hfour : 1 - 1 / 2 ^ 50 ≤ kept ^ 4 := by norm_num [kept]
    have hfour' : 1 ≤ (1 + 1 / 2 ^ 50) * kept ^ 4 := by norm_num [kept]
    constructor
    · have := mul_le_mul_of_nonneg_right hfour hrate
      linarith [hnear.1]
    · calc (⌊binary64.nearest q⌋₊ : ℚ) ≤ binary64.nearest q := hfloor
        _ ≤ (1 + 1 / 2 ^ 50) * kept ^ 4 * binary64.nearest q :=
          le_mul_of_one_le_left Format.nearest_nonneg hfour'
        _ ≤ (1 + 1 / 2 ^ 50) * r := by
          rw [mul_assoc]
          exact mul_le_mul_of_nonneg_left hnear.2 (by norm_num)
  · -- too small a quotient is cut to zero
    rw [not_le] at hlarge
    have hnear : binary64.nearest q ≤ 2 ^ (-1 : Int) :=
      Format.nearest_le_two_zpow hnonneg (by decide) hlarge.le
    have hhalf : (2 : ℚ) ^ (-1 : Int) < 1 := by norm_num
    have hzero : ⌊binary64.nearest q⌋₊ = 0 := Nat.floor_eq_zero.2 (hnear.trans_lt hhalf)
    have hthree : 1 - 1 / 2 ^ 50 ≤ kept ^ 3 := by norm_num [kept]
    rw [hzero, Nat.cast_zero]
    constructor
    · have := mul_le_mul_of_nonneg_right hthree hrate
      linarith [hquotient.1]
    · exact mul_nonneg (by norm_num) hrate

/-! ### Whole seconds and small numbers -/

/-- **A quotient of small natural numbers is never lifted to the next one** by its rounding. -/
theorem floor_nearest_div (hs : 0 < s) (hs' : s ≤ 2 ^ 53) (hn : n < 2 ^ 53) :
    ⌊binary64.nearest (n / s)⌋₊ = n / s := by
  have hs₀ : (0 : ℚ) < s := by exact_mod_cast hs
  have hquotient : (0 : ℚ) ≤ n / s := by positivity
  have hwhole : n / s < 2 ^ 53 := (Nat.div_le_self n s).trans_lt hn
  rw [Nat.floor_eq_iff Format.nearest_nonneg]
  refine ⟨Format.le_nearest hquotient (Format.hasNumber_natCast hwhole) Nat.cast_div_le, ?_⟩
  rcases Nat.eq_zero_or_pos n with rfl | hpos
  · simp
  · have hnormal : (2 : ℚ) ^ (-1022 : Int) ≤ n / s := by
      have hone : (1 : ℚ) ≤ n := by exact_mod_cast hpos
      have hend : (s : ℚ) ≤ 2 ^ (53 : Int) := by exact_mod_cast hs'
      calc (2 : ℚ) ^ (-1022 : Int) ≤ 1 / 2 ^ (53 : Int) := by
            rw [one_div, ← zpow_neg]
            exact zpow_le_zpow_right₀ one_le_two (by decide)
        _ ≤ n / s := div_le_div₀ (Nat.cast_nonneg n) hone hs₀ hend
    have herror := (abs_le.1 (Format.abs_nearest_sub_le_div (f := binary64) hnormal)).2
    -- the remainder leaves room for one part of the divisor
    have hroom : (n + 1 : ℚ) ≤ (n / s + 1 : Nat) * s := by
      have hdiv := Nat.div_add_mod n s
      have hmod := Nat.mod_lt n hs
      have hnat : n + 1 ≤ (n / s + 1) * s := by
        rw [Nat.add_mul, Nat.one_mul, Nat.mul_comm]
        omega
      exact_mod_cast hnat
    have hsmall : (n : ℚ) / 2 ^ 53 < 1 := by
      rw [div_lt_one (by positivity)]
      exact_mod_cast hn
    have hlt : (n / s + n / s / 2 ^ 53 : ℚ) < (n / s + 1 : Nat) := by
      rw [div_right_comm, ← add_div, div_lt_iff₀ hs₀]
      linarith
    push_cast at hlt
    have hprecision : (2 : ℚ) ^ binary64.precision = 2 ^ 53 := rfl
    rw [hprecision] at herror
    linarith

theorem roundedSeconds_whole (hs : s < 2 ^ 53) : roundedSeconds (s * 1000000000) = s := by
  have hdiv : s * 1000000000 / 1000000000 = s := Nat.mul_div_cancel s (by decide)
  have hmod : s * 1000000000 % 1000000000 = 0 := Nat.mul_mod_left s 1000000000
  rw [roundedSeconds, hdiv, hmod, Nat.cast_zero, zero_div, Format.nearest_zero, add_zero,
    Format.nearest_natCast hs, Format.nearest_natCast hs]

/-- In whole seconds and small numbers, the quotient is cut to the exact one. -/
theorem floor_roundedRate_whole {bytes : Nat} (hs : 0 < s) (h : 8 * bytes + s ≤ 2 ^ 53) :
    ⌊roundedRate bytes (s * 1000000000)⌋₊ = 8 * bytes / s := by
  rcases Nat.eq_zero_or_pos bytes with rfl | hpos
  · simp [roundedRate]
  · have hbits : (8 * binary64.nearest bytes : ℚ) = (8 * bytes : Nat) := by
      rw [Format.nearest_natCast (by omega)]
      push_cast
      rfl
    rw [roundedRate, roundedSeconds_whole (by omega), hbits]
    exact floor_nearest_div hs (by omega) (by omega)

/-! ### The rates -/

/-- **Rates are accurate.**  A direction whose counter grew by `D` in `e` nanoseconds has the rate
`8 * D * 10 ^ 9 / e`, up to a part of `2 ^ 50` and the cut to a whole number, unless that is beyond
a word; in whole seconds, and if the numbers are small, its rate is the whole part of the
quotient. -/
theorem bitsPerSecond_accurate (dir : Direction) {before after : Reading} {D e : Nat}
    (hD : (dir.counter before).toNat + D = (dir.counter after).toNat)
    (he : before.instant + e = after.instant) (hpos : 0 < e) :
    ((1 + 1 / 2 ^ 50) * bitRate D e < 2 ^ 64 →
      (1 - 1 / 2 ^ 50) * bitRate D e - 1 < (dir.rate (bitsPerSecond before after)).toNat ∧
        (dir.rate (bitsPerSecond before after)).toNat ≤ (1 + 1 / 2 ^ 50) * bitRate D e) ∧
    ∀ s, e = s * 1000000000 → 8 * D + s ≤ 2 ^ 53 →
      (dir.rate (bitsPerSecond before after)).toNat = 8 * D / s := by
  have hincrease : dir.increase before after = D := by
    rw [Direction.increase, growth]
    omega
  have helapsed : after.instant - before.instant = e := by omega
  have hpassed : before.instant < after.instant := by omega
  have hrate := rate_bitsPerSecond dir hpassed
  rw [hincrease, helapsed] at hrate
  constructor
  · intro hword
    obtain ⟨hlow, hhigh⟩ := floor_roundedRate_bounds D hpos
    have hlt : ⌊roundedRate D e⌋₊ < 2 ^ 64 := by exact_mod_cast hhigh.trans_lt hword
    have hmin : min (UInt64.size - 1) ⌊roundedRate D e⌋₊ = ⌊roundedRate D e⌋₊ :=
      Nat.min_eq_right (Nat.le_sub_one_of_lt hlt)
    rw [hrate, hmin]
    exact ⟨hlow, hhigh⟩
  · intro s hs hsmall
    subst hs
    have hexact := floor_roundedRate_whole (Nat.pos_of_mul_pos_right hpos) hsmall
    have hle : 8 * D / s ≤ UInt64.size - 1 := by
      refine (Nat.div_le_self ..).trans ?_
      have hsize : UInt64.size = 2 ^ 64 := rfl
      omega
    rw [hrate, hexact, Nat.min_eq_right hle]

/-- A counter that grew by `2 ^ 60` in a second and a nanosecond, and one that grew by almost
`2 ^ 50` in seven seconds. -/
theorem bitsPerSecond_accurate_fast :
    ((1 - 1 / 2 ^ 50) * bitRate 1152921504606846976 1000000001 - 1 <
        (Direction.down.rate (bitsPerSecond ⟨5, 0, "eth0", 3⟩
          ⟨1152921504606846981, 0, "eth0", 1000000004⟩)).toNat ∧
      (Direction.down.rate (bitsPerSecond ⟨5, 0, "eth0", 3⟩
          ⟨1152921504606846981, 0, "eth0", 1000000004⟩)).toNat ≤
        (1 + 1 / 2 ^ 50) * bitRate 1152921504606846976 1000000001) ∧
    (Direction.up.rate (bitsPerSecond ⟨0, 9, "eth0", 3⟩
      ⟨0, 1125899906842632, "eth0", 7000000003⟩)).toNat = 8 * 1125899906842623 / 7 := by
  refine ⟨(bitsPerSecond_accurate .down (e := 1000000001) rfl rfl (by decide)).1 ?_,
    (bitsPerSecond_accurate .up (e := 7000000000) rfl rfl (by decide)).2 7 rfl (by decide)⟩
  norm_num [bitRate]

end ShaperDash
