import ShaperDash.Proofs.Throughput.Accuracy

/-!
# Rates keep the order

A rate is not less for more bytes, and not greater for a longer time.  The rest of a second could
spoil that where a second is carried, but below `2 ^ 53` seconds the whole ones are exact, and above
the rest no longer shows.

* `roundedSeconds_mono` : **a longer time is no fewer seconds.**
* `roundedRate_mono` : more bytes in less time are no lower rate.
* `bitsPerSecond_ordered` : **rates keep the order, each direction on its own; a counter that went
  back and a clock that stood still give zero, and a rate beyond the greatest word is that word.**
-/

namespace ShaperDash

variable {m n bytes bytes' nanos nanos' : Nat} {x y : ℚ}

/-! ### Seconds -/

/-- Above `2 ^ 53` numbers are two apart, so that less than one more does not show. -/
theorem nearest_add_lt_one (hx : 0 < x) (hlarge : 2 ^ (53 : Int) ≤ binary64.nearest x)
    (hy : 0 ≤ y) (hy' : y < 1) :
    binary64.nearest (binary64.nearest x + y) = binary64.nearest x := by
  obtain ⟨m, e, hcanonical, hvalue⟩ := Format.exists_canonical_nearest (f := binary64) hx
  rw [← hvalue] at hlarge ⊢
  have hm : 0 < m := by
    by_contra hzero
    rw [Nat.eq_zero_of_not_pos hzero, scaled, Nat.cast_zero, zero_mul] at hlarge
    exact absurd hlarge (not_le.2 (two_zpow_pos 53))
  have hplace : 1 ≤ e := by
    have hlt := hlarge.trans_lt hcanonical.scaled_lt
    have hexponent := (zpow_lt_zpow_iff_right₀ one_lt_two).1 hlt
    have hprecision : (binary64.precision : Int) = 53 := rfl
    omega
  have htwo : (2 : ℚ) ≤ 2 ^ e := by
    calc (2 : ℚ) = 2 ^ (1 : Int) := (zpow_one 2).symm
      _ ≤ 2 ^ e := zpow_le_zpow_right₀ one_le_two hplace
  exact Format.nearest_of_above hcanonical hm (le_add_of_nonneg_right hy) (.inl (by linarith))

theorem natCast_le_nearest (hm : m < 2 ^ 53) (h : m + 1 ≤ n) :
    ((m + 1 : Nat) : ℚ) ≤ binary64.nearest n := by
  have hle : ((m + 1 : Nat) : ℚ) ≤ n := Nat.cast_le.2 h
  by_cases hlast : m + 1 < 2 ^ 53
  · exact Format.le_nearest (Nat.cast_nonneg n) (Format.hasNumber_natCast hlast) hle
  · have hpower : ((m + 1 : Nat) : ℚ) = 2 ^ (53 : Int) := by
      have hnat : m + 1 = 2 ^ 53 := by omega
      rw [hnat]
      norm_num
    rw [hpower] at hle ⊢
    exact Format.two_zpow_le_nearest (by decide) hle

/-- **A longer time is no fewer seconds.** -/
theorem roundedSeconds_mono (h : m ≤ n) : roundedSeconds m ≤ roundedSeconds n := by
  have hwhole : m / 1000000000 ≤ n / 1000000000 := Nat.div_le_div_right h
  have hrest := nearest_rest_lt_one m
  have hrest' : 0 ≤ binary64.nearest ((n % 1000000000 : Nat) / 1000000000) := Format.nearest_nonneg
  have hmono : binary64.nearest (m / 1000000000 : Nat) ≤ binary64.nearest (n / 1000000000 : Nat) :=
    Format.nearest_mono (Nat.cast_nonneg _) (Nat.cast_le.2 hwhole)
  by_cases hexact : m / 1000000000 < 2 ^ 53
  · refine Format.nearest_mono (add_nonneg Format.nearest_nonneg Format.nearest_nonneg) ?_
    by_cases hcarry : m / 1000000000 = n / 1000000000
    · -- the same whole seconds, so that the rest decides
      have hparts : m % 1000000000 ≤ n % 1000000000 := by omega
      rw [hcarry]
      refine add_le_add_right (Format.nearest_mono (by positivity) ?_) _
      exact div_le_div_of_nonneg_right (Nat.cast_le.2 hparts) (by norm_num)
    · -- a second more at least, which is more than the rest
      have hsucc : m / 1000000000 + 1 ≤ n / 1000000000 := by omega
      have hsucc' : ((m / 1000000000 : Nat) + 1 : ℚ) ≤ binary64.nearest (n / 1000000000 : Nat) := by
        exact_mod_cast natCast_le_nearest hexact hsucc
      rw [Format.nearest_natCast hexact]
      linarith
  · have hlarge : (2 : ℚ) ^ (53 : Int) ≤ (m / 1000000000 : Nat) := by
      exact_mod_cast Nat.le_of_not_lt hexact
    have hpos := (two_zpow_pos 53).trans_le hlarge
    have hnear := Format.two_zpow_le_nearest (by decide) hlarge
    rw [roundedSeconds, roundedSeconds,
      nearest_add_lt_one hpos hnear Format.nearest_nonneg hrest,
      nearest_add_lt_one (hpos.trans_le (Nat.cast_le.2 hwhole)) (hnear.trans hmono)
        Format.nearest_nonneg (nearest_rest_lt_one n)]
    exact hmono

/-! ### Rates -/

/-- More bytes in less time are no lower rate. -/
theorem roundedRate_mono (hbytes : bytes ≤ bytes') (hnanos : 0 < nanos') (h : nanos' ≤ nanos) :
    roundedRate bytes nanos ≤ roundedRate bytes' nanos' := by
  have hpos := (two_zpow_pos (-30)).trans_le (two_zpow_le_roundedSeconds hnanos)
  have hnear : binary64.nearest bytes ≤ binary64.nearest bytes' :=
    Format.nearest_mono (Nat.cast_nonneg bytes) (Nat.cast_le.2 hbytes)
  have hnonneg : ∀ b : Nat, 0 ≤ 8 * binary64.nearest b := fun b =>
    mul_nonneg (by norm_num) Format.nearest_nonneg
  refine Format.nearest_mono (div_nonneg (hnonneg bytes) Format.nearest_nonneg) ?_
  exact div_le_div₀ (hnonneg bytes') (by linarith) hpos (roundedSeconds_mono h)

theorem rate_of_counter_back (dir : Direction) {before after : Reading}
    (h : dir.counter after ≤ dir.counter before) : dir.rate (bitsPerSecond before after) = 0 := by
  by_cases hpassed : before.instant < after.instant
  · have hincrease : dir.increase before after = 0 :=
      Nat.sub_eq_zero_of_le (UInt64.le_iff_toNat_le.1 h)
    have hrate := rate_bitsPerSecond dir hpassed
    rw [hincrease] at hrate
    refine UInt64.toNat_inj.1 (hrate.trans ?_)
    simp [roundedRate]
  · rw [bitsPerSecond_of_le (Nat.le_of_not_lt hpassed)]
    cases dir <;> rfl

/-- A rate is made of the counters of its direction and the two instants. -/
theorem rate_congr (dir : Direction) {before after before' after' : Reading}
    (hbefore : dir.counter before' = dir.counter before)
    (hafter : dir.counter after' = dir.counter after)
    (hinstant : before'.instant = before.instant) (hinstant' : after'.instant = after.instant) :
    dir.rate (bitsPerSecond before' after') = dir.rate (bitsPerSecond before after) := by
  rw [rate_eq, rate_eq, hinstant, hinstant', Direction.increase, hbefore, hafter,
    ← Direction.increase]

/-- **Rates keep the order, each direction on its own.**

* More bytes in less time, if there is any, are no lower rate.
* A counter that did not grow, or went back, has the rate zero.
* If the clock stood still or went back, both rates are zero.
* A rate depends on the two counters of its direction and the two instants alone, so that what
  happens to the other direction does not change it.
* It is the whole part of the 64-bit quotient, or the greatest word if that is less; and the
  greatest word it is from a trace above `2 ^ 64` bits per second on. -/
theorem bitsPerSecond_ordered (dir : Direction) (before after : Reading) :
    (∀ before' after' : Reading, before'.instant < after'.instant →
      after'.instant - before'.instant ≤ after.instant - before.instant →
      dir.increase before after ≤ dir.increase before' after' →
      dir.rate (bitsPerSecond before after) ≤ dir.rate (bitsPerSecond before' after')) ∧
    (dir.counter after ≤ dir.counter before → dir.rate (bitsPerSecond before after) = 0) ∧
    (after.instant ≤ before.instant → bitsPerSecond before after = ⟨0, 0⟩) ∧
    (∀ before' after' : Reading, dir.counter before' = dir.counter before →
      dir.counter after' = dir.counter after → before'.instant = before.instant →
      after'.instant = after.instant →
      dir.rate (bitsPerSecond before' after') = dir.rate (bitsPerSecond before after)) ∧
    (before.instant < after.instant →
      (∃ q, (byteQuotient (dir.increase before after)
          (after.instant - before.instant)).number? = some q ∧
        (dir.rate (bitsPerSecond before after)).toNat = min (UInt64.size - 1) ⌊q⌋₊) ∧
      (2 ^ 64 ≤ (1 - 1 / 2 ^ 50) *
          bitRate (dir.increase before after) (after.instant - before.instant) →
        (dir.rate (bitsPerSecond before after)).toNat = UInt64.size - 1)) := by
  refine ⟨?_, rate_of_counter_back dir, bitsPerSecond_of_le, ?_, ?_⟩
  · intro before' after' hpassed hless hmore
    have hpassed' : before.instant < after.instant := by omega
    have hrate := rate_bitsPerSecond dir hpassed
    have hrate' := rate_bitsPerSecond dir hpassed'
    have hmono := roundedRate_mono hmore (Nat.sub_pos_of_lt hpassed) hless
    rw [UInt64.le_iff_toNat_le, hrate, hrate']
    exact min_le_min_left _ (Nat.floor_le_floor hmono)
  · intro before' after' hbefore hafter hinstant hinstant'
    exact rate_congr dir hbefore hafter hinstant hinstant'
  · intro hpassed
    have hrate := rate_bitsPerSecond dir hpassed
    have hnanos := Nat.sub_pos_of_lt hpassed
    constructor
    · obtain ⟨q, hquotient, hfloor⟩ :=
        byteQuotient_ofSize (dir.increase_lt before after) hnanos
      exact ⟨q, hquotient.number, by rw [hrate, hfloor]⟩
    · intro hbeyond
      obtain ⟨hlow, -⟩ :=
        floor_roundedRate_bounds (dir.increase before after) hnanos
      rw [hrate]
      generalize ⌊roundedRate (dir.increase before after) (after.instant - before.instant)⌋₊ = r
        at hlow ⊢
      have hlarge : (2 ^ 64 : ℚ) < (r + 1 : Nat) := by
        push_cast
        linarith
      have hlarge' : 2 ^ 64 < r + 1 := by exact_mod_cast hlarge
      exact Nat.min_eq_left (by have hsize : UInt64.size = 2 ^ 64 := rfl; omega)

/-- A counter reset in one direction while the other goes on, a nanosecond less than a second
against a second, and a counter that wins a whole word in a nanosecond. -/
theorem bitsPerSecond_ordered_resets :
    (Direction.up.rate (bitsPerSecond ⟨9000, 500, "eth0", 0⟩ ⟨10, 1500, "eth0", 1000000000⟩) ≤
        Direction.up.rate (bitsPerSecond ⟨0, 0, "eth1", 5⟩ ⟨0, 1000, "eth1", 1000000004⟩) ∧
      Direction.down.rate
        (bitsPerSecond ⟨9000, 500, "eth0", 0⟩ ⟨10, 1500, "eth0", 1000000000⟩) = 0) ∧
    (Direction.down.rate (bitsPerSecond ⟨0, 0, "eth0", 0⟩
      ⟨18446744073709551615, 0, "eth0", 1⟩)).toNat = UInt64.size - 1 := by
  refine ⟨⟨?_, ?_⟩, ?_⟩
  · exact (bitsPerSecond_ordered .up _ _).1 _ _ (by decide) (by decide) (by decide)
  · exact (bitsPerSecond_ordered .down _ _).2.1 (by decide)
  · refine ((bitsPerSecond_ordered .down _ _).2.2.2.2 (by decide)).2 ?_
    have hincrease : Direction.down.increase ⟨0, 0, "eth0", 0⟩
        ⟨18446744073709551615, 0, "eth0", 1⟩ = 18446744073709551615 := rfl
    rw [hincrease]
    norm_num [bitRate]

end ShaperDash
