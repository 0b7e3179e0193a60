import ShaperDash.Proofs.Scale.Labels

/-!
# Labels keep the order

Inside a bracket every step on the way to a label keeps the order.  Between brackets the ends meet:
what is shown in a unit is at least one of it and at most a thousand, which is one of the next
unit.  Numbers that are shown in full are in order because each of their numerals is rounded to the
number that it stands for.

* `plainValue_mono` : the numbers written in full.
* `le_value_of_bracket`, `value_le_of_bracket` : the ends of a bracket.
* `scaleNumber_mono` : **the label of a greater number never denotes less.**
-/

namespace ShaperDash

variable {s t : Bool} {m n u v : Nat} {e e' : Int} {x y : ℚ} {letter letter' : Char}

/-! ### Numbers written in full -/

theorem plainValue_mono (h : binary64.Canonical m e) (h' : binary64.Canonical n e')
    (hle : (if s then -scaled m e else scaled m e) ≤ if t then -scaled n e' else scaled n e') :
    plainValue s m e ≤ plainValue t n e' := by
  have hm := scaled_nonneg m e
  have hn := scaled_nonneg n e'
  have hvalue : 0 ≤ (binary64.shortest .up m e).value := Decimal.value_nonneg _
  have hvalue' : 0 ≤ (binary64.shortest .up n e').value := Decimal.value_nonneg _
  cases s with
  | false =>
    cases t with
    | false => exact Format.shortest_mono h h' hle
    | true =>
      -- a number that is not below zero, at most one that is not above: both are zero
      have hzero : ∀ {k : Nat} {d : Int}, scaled k d ≤ 0 →
          (binary64.shortest .up k d).value = 0 := by
        intro k d hk
        have hk' : scaled k d = 0 := le_antisymm hk (scaled_nonneg k d)
        have hsignificand : k = 0 := by
          rw [scaled, mul_eq_zero, or_iff_left (two_zpow_pos d).ne'] at hk'
          exact_mod_cast hk'
        simp [hsignificand, Format.shortest, Decimal.value]
      simp only [plainValue, Bool.false_eq_true, if_true, if_false] at hle ⊢
      rw [hzero (by linarith), hzero (by linarith), neg_zero]
  | true =>
    cases t with
    | false => exact (neg_nonpos.2 hvalue).trans hvalue'
    | true => exact neg_le_neg (Format.shortest_mono h' h (neg_le_neg_iff.1 hle))

/-- No numeral without a unit denotes more than a thousand. -/
theorem plainValue_le (h : binary64.Canonical m e)
    (hle : (if s then -scaled m e else scaled m e) ≤ 1000) : plainValue s m e ≤ 1000 := by
  have hcanonical : binary64.Canonical (1000 * 2 ^ 43) (-43) :=
    ⟨by decide, by decide, fun h => absurd h (by decide)⟩
  have hthousand : plainValue false (1000 * 2 ^ 43) (-43) = 1000 := by
    have hshortest : binary64.shortest .up (1000 * 2 ^ 43) (-43) = ⟨1, 3⟩ := by decide +kernel
    rw [plainValue, hshortest]
    norm_num [Decimal.value]
  rw [← hthousand]
  refine plainValue_mono h hcanonical (hle.trans_eq ?_)
  norm_num [scaled]

/-! ### The ends of a bracket -/

theorem le_value_of_bracket (hb : bracket x = some (u, letter)) :
    (u : ℚ) ≤ Label.value ⟨shownHundredths u x / 100, u⟩ := by
  obtain ⟨hmem, hlow, -⟩ := bracket_spec hb
  have hu : 0 < u := by linarith [(unit_le _ hmem).1]
  have hshown : (100 : ℚ) ≤ shownHundredths u x := by
    exact_mod_cast hundred_le_shownHundredths hu hlow.le
  refine le_mul_of_one_le_left (Nat.cast_nonneg u) ?_
  linarith

theorem value_le_of_bracket (hb : bracket x = some (u, letter)) (hle : x ≤ 1000 * u) :
    Label.value ⟨shownHundredths u x / 100, u⟩ ≤ 1000 * u := by
  obtain ⟨hmem, hlow, -⟩ := bracket_spec hb
  have hu : 0 < u := by linarith [(unit_le _ hmem).1]
  have hshown : (shownHundredths u x : ℚ) ≤ 100000 := by
    exact_mod_cast shownHundredths_le hu hlow.le hle
  refine mul_le_mul_of_nonneg_right ?_ (Nat.cast_nonneg u)
  linarith

/-- In one bracket or two, the labels of greater numbers do not denote less. -/
theorem value_mono_of_brackets (hx : bracket x = some (u, letter))
    (hy : bracket y = some (v, letter')) (h : x ≤ y) :
    Label.value ⟨shownHundredths u x / 100, u⟩ ≤ Label.value ⟨shownHundredths v y / 100, v⟩ := by
  obtain ⟨hu, hxlow, hxhigh⟩ := bracket_spec hx
  obtain ⟨hv, hylow, hyhigh⟩ := bracket_spec hy
  rcases lt_trichotomy u v with hlt | rfl | hgt
  · -- a thousand of the one unit are at most one of the other
    have hapart : (1000 * u : ℚ) ≤ v := by exact_mod_cast units_apart _ hu _ hv hlt
    have hlast : u ≠ 1000000000000 := by
      rintro rfl
      have := (unit_le _ hv).2
      omega
    have hend := value_le_of_bracket hx (hxhigh.resolve_right hlast)
    exact (hend.trans hapart).trans (le_value_of_bracket hy)
  · have hmono := shownHundredths_mono u ((Nat.cast_nonneg u).trans hxlow.le) h
    refine mul_le_mul_of_nonneg_right ?_ (Nat.cast_nonneg u)
    exact div_le_div_of_nonneg_right (Nat.cast_le.2 hmono) (by norm_num)
  · -- then `y` would be passed over by its own unit
    have hapart : (1000 * v : ℚ) ≤ u := by exact_mod_cast units_apart _ hv _ hu hgt
    have hlast : v ≠ 1000000000000 := by
      rintro rfl
      have := (unit_le _ hu).2
      omega
    have hend := hyhigh.resolve_right hlast
    linarith

/-! ### All numbers -/

/-- **The label of a greater number never denotes less.** -/
theorem scaleNumber_mono (v w : UInt64) {x y : ℚ}
    (hx : (binary64.decode v.toNat).number? = some x)
    (hy : (binary64.decode w.toNat).number? = some y) (h : x ≤ y) :
    ∃ a b, Label.read (scaleNumber (binary64.decode v.toNat)) = some a ∧
      Label.read (scaleNumber (binary64.decode w.toNat)) = some b ∧ a.value ≤ b.value := by
  by_cases hbelow : y ≤ 1000
  · obtain ⟨s, m, e, hd, hcanonical, hvalue, -⟩ := canonical_of_number hx
    obtain ⟨t, n, e', hd', hcanonical', hvalue', -⟩ := canonical_of_number hy
    rw [hd] at hx ⊢
    rw [hd'] at hy ⊢
    refine ⟨_, _, read_scaleNumber_plain hx (h.trans hbelow), read_scaleNumber_plain hy hbelow, ?_⟩
    rw [hvalue, hvalue'] at h
    exact mul_le_mul_of_nonneg_right (plainValue_mono hcanonical hcanonical' h) (Nat.cast_nonneg 1)
  · rw [not_le] at hbelow
    obtain ⟨hsize', v', letter', hb', hrange'⟩ := exists_bracket hy hbelow
    by_cases hplain : x ≤ 1000
    · obtain ⟨s, m, e, hd, hcanonical, hvalue, -⟩ := canonical_of_number hx
      rw [hd] at hx ⊢
      refine ⟨_, _, read_scaleNumber_plain hx hplain, read_scaleNumber hsize' hb' hrange', ?_⟩
      rw [hvalue] at hplain
      have hunit : (1000 : ℚ) ≤ v' := by exact_mod_cast (unit_le _ (bracket_spec hb').1).1
      calc Label.value ⟨plainValue s m e, 1⟩ = plainValue s m e := by simp [Label.value]
        _ ≤ 1000 := plainValue_le hcanonical hplain
        _ ≤ v' := hunit
        _ ≤ _ := le_value_of_bracket hb'
    · obtain ⟨hsize, u, letter, hb, hrange⟩ := exists_bracket hx (not_le.1 hplain)
      exact ⟨_, _, read_scaleNumber hsize hb hrange, read_scaleNumber hsize' hb' hrange',
        value_mono_of_brackets hb hb' h⟩

/-- The last number below a million is shown as a thousand thousands, the first one above as one
million. -/
theorem scaleNumber_mono_million : ∃ a b,
    Label.read (scaleNumber (binary64.decode (0x412e847fffffffff : UInt64).toNat)) = some a ∧
      Label.read (scaleNumber (binary64.decode (0x412e848000000001 : UInt64).toNat)) = some b ∧
        a.value ≤ b.value :=
  scaleNumber_mono 0x412e847fffffffff 0x412e848000000001 (x := 8589934591999999 / 2 ^ 33)
    (y := 8589934592000001 / 2 ^ 33) rfl rfl (by norm_num)

end ShaperDash
