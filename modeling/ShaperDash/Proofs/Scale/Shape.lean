import ShaperDash.Proofs.Scale.Labels

/-!
# The shape of labels

A number above a thousand is shown with two decimals and a letter, and its numeral counts one unit
or more: as many as a thousand in every unit but the last.  All digits of a huge number are there.
Any other number is a numeral and nothing else.

* `zeroPadded_two` : what is shown of hundredths is two digits.
* `scaleNumber_shape` : **the shape of every label.**
-/

namespace ShaperDash

variable {s : Bool} {m n u : Nat} {e : Int} {x : ℚ} {letter : Char}

theorem zeroPadded_two (hn : n < 10 ^ 2) :
    ∃ a b, zeroPadded 2 n = [a, b] ∧ a.isDigit = true ∧ b.isDigit = true := by
  have hdigits : IsDigits (zeroPadded 2 n) := isDigits_replicate_append _ (isDigits_digitsOf n)
  obtain ⟨a, b, hab⟩ := List.length_eq_two.1 (length_zeroPadded (by decide) hn)
  rw [hab] at hdigits
  exact ⟨a, b, hab, hdigits.2 a (by simp), hdigits.2 b (by simp)⟩

/-- The numeral and the letter of a number above a thousand. -/
theorem scaleNumber_shape_of_bracket {d : Datum} (hx : d.OfSize false x)
    (hb : bracket x = some (u, letter)) (hrange : x ≤ u * 2 ^ (1000 : Int)) :
    ∃ whole a b, (scaleNumber d).toList = whole ++ ['.', a, b, letter] ∧
      IsDigits whole ∧ whole.head? ≠ some '0' ∧ a.isDigit = true ∧ b.isDigit = true ∧
        ∃ q, readNumeral (whole ++ ['.', a, b]) = some q ∧ 1 ≤ q ∧ (x ≤ 1000 * u → q ≤ 1000) := by
  obtain ⟨hmem, hlow, -⟩ := bracket_spec hb
  have hu : 0 < u := by linarith [(unit_le _ hmem).1]
  have hshown : 100 ≤ shownHundredths u x := hundred_le_shownHundredths hu hlow.le
  have hfront : 0 < shownHundredths u x / 10 ^ 2 := by omega
  have hnumeral := isNumeral_units 2 (shownHundredths u x) (by decide)
  have hread := hnumeral.readNumeral_sign false
  obtain ⟨a, b, hab, ha, hb'⟩ := zeroPadded_two (Nat.mod_lt (shownHundredths u x) (by decide))
  rw [hab] at hread
  refine ⟨_, a, b, ?_, isDigits_digitsOf _, head_digitsOf hfront, ha, hb', _, hread, ?_, ?_⟩
  · rw [scaleNumber_eq hx hb hrange, hab]
    simp
  · have hshown' : (100 : ℚ) ≤ shownHundredths u x := by exact_mod_cast hshown
    rw [if_neg (by decide), le_div_iff₀ (by norm_num)]
    linarith
  · intro hle
    have hend : (shownHundredths u x : ℚ) ≤ 100000 := by
      exact_mod_cast shownHundredths_le hu hlow.le hle
    rw [if_neg (by decide), div_le_iff₀ (by norm_num)]
    linarith

/-- **The shape of every label**: two decimals and a letter above a thousand, where the numeral is
at least one and, but for trillions, at most a thousand; a mere numeral up to a thousand. -/
theorem scaleNumber_shape (w : UInt64) {x : ℚ} (hx : (binary64.decode w.toNat).number? = some x) :
    (1000 < x → ∃ whole a b letter,
      (scaleNumber (binary64.decode w.toNat)).toList = whole ++ ['.', a, b, letter] ∧
        IsDigits whole ∧ whole.head? ≠ some '0' ∧ a.isDigit = true ∧ b.isDigit = true ∧
        letter ∈ ['K', 'M', 'G', 'T'] ∧
        ∃ q, readNumeral (whole ++ ['.', a, b]) = some q ∧ 1 ≤ q ∧ (letter ≠ 'T' → q ≤ 1000)) ∧
    (x ≤ 1000 → ∃ s cs y,
      (scaleNumber (binary64.decode w.toNat)).toList = Datum.sign s ++ cs ∧ IsNumeral cs y) := by
  constructor
  · intro h
    obtain ⟨hsize, u, letter, hb, hrange⟩ := exists_bracket hx h
    obtain ⟨hmem, -, hend⟩ := bracket_spec hb
    obtain ⟨whole, a, b, htext, hwhole, hzero, ha, hb', q, hq, hlow, hhigh⟩ :=
      scaleNumber_shape_of_bracket hsize hb hrange
    have hletters : ∀ u ∈ scaleUnits, u.2 ∈ ['K', 'M', 'G', 'T'] := by decide
    have hlast : ∀ u ∈ scaleUnits, u.1 = 1000000000000 → u.2 = 'T' := by decide
    refine ⟨whole, a, b, letter, htext, hwhole, hzero, ha, hb', hletters _ hmem, q, hq, hlow, ?_⟩
    intro hne
    exact hhigh (hend.resolve_right fun hu => hne (hlast _ hmem hu))
  · intro h
    obtain ⟨s, m, e, hd, -, -, -⟩ := canonical_of_number hx
    refine ⟨s, _, _, ?_, Decimal.isNumeral_positional (binary64.shortest .up m e)⟩
    rw [scaleNumber_plain hx h, hd, Datum.plain, String.toList_ofList]

/-- The greatest number has the shape of trillions, the greatest one below zero is a numeral. -/
theorem scaleNumber_shape_extremes :
    (∃ whole a b letter,
      (scaleNumber (binary64.decode (0x7fefffffffffffff : UInt64).toNat)).toList =
        whole ++ ['.', a, b, letter] ∧ IsDigits whole) ∧
    ∃ s cs y, (scaleNumber (binary64.decode (0x8000000000000001 : UInt64).toNat)).toList =
      Datum.sign s ++ cs ∧ IsNumeral cs y := by
  refine ⟨?_, (scaleNumber_shape 0x8000000000000001 (x := -(1 : Nat) * 2 ^ (-1074 : Int)) rfl).2 ?_⟩
  · have habove : (1000 : ℚ) < (9007199254740991 : Nat) * 2 ^ (971 : Int) := by
      have hone : (1 : ℚ) ≤ 2 ^ (971 : Int) := one_le_zpow₀ one_le_two (by decide)
      calc (1000 : ℚ) < (9007199254740991 : Nat) := by norm_num
        _ ≤ (9007199254740991 : Nat) * 2 ^ (971 : Int) := le_mul_of_one_le_right (by norm_num) hone
    obtain ⟨whole, a, b, letter, htext, hwhole, -⟩ :=
      (scaleNumber_shape 0x7fefffffffffffff rfl).1 habove
    exact ⟨whole, a, b, letter, htext, hwhole⟩
  · have hpos := two_zpow_pos (-1074)
    rw [Nat.cast_one]
    linarith

end ShaperDash
