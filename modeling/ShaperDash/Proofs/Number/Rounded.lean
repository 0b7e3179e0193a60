import ShaperDash.Proofs.Number.Shortest

/-!
# The datum that rounding gives

Rounding gives the nearest number in its canonical form, the form in which words have it, or an
infinity.  So a datum of a word is known by its sign and its number, and the word by its datum.

* `Format.round_spec` : **rounding gives the nearest number in canonical form**, or an infinity.
* `Format.round_eq_finite_iff` : which quotients are rounded to a datum.
* `Format.round_cases` : a quotient that is rounded to an infinity is beyond the format.
* `Format.Holds`, `Format.Holds.eq` : the data of a format, each known by its sign and number.
* `Format.add_cases` : **a sum is rounded to the nearest number**, or beyond the format.
* `Format.encode_of_decode` : **a word is known by its datum.**
-/

namespace ShaperDash

namespace Format

variable {f : Format} {num den m : Nat} {e : Int} {s t : Bool} {x : ℚ}

/-! ### Rounding -/

/-- The significand that a number has in its place, after rounding. -/
def significandAt (f : Format) (x : ℚ) : Nat := nearestNat .even (x / 2 ^ f.place x)

theorem scaled_significandAt (x : ℚ) : scaled (f.significandAt x) (f.place x) = f.nearest x := rfl

theorem significandAt_le [f.Regular] (hx : 0 < x) : f.significandAt x ≤ 2 ^ f.precision := by
  have hscale := two_zpow_pos (f.place x)
  have hle : x / 2 ^ f.place x ≤ (2 ^ f.precision : Nat) := by
    rw [div_le_iff₀ hscale]
    refine (lt_of_place_le (f := f) hx le_rfl).le.trans_eq ?_
    exact (scaled_pow f.precision (f.place x)).symm
  have hmono := nearestNat_mono .even (div_nonneg hx.le hscale.le) hle
  rwa [nearestNat_natCast] at hmono

theorem le_significandAt [f.Regular] (hx : 0 < x) (hplace : f.minExponent < f.place x) :
    2 ^ (f.precision - 1) ≤ f.significandAt x := by
  have hle : ((2 ^ (f.precision - 1) : Nat) : ℚ) ≤ x / 2 ^ f.place x := by
    rw [le_div_iff₀ (two_zpow_pos _)]
    refine (scaled_firstBit (f := f) (f.place x)).trans_le ?_
    exact le_of_lt_place hx (by omega) (by omega)
  have hmono := nearestNat_mono .even (Nat.cast_nonneg _) hle
  rwa [nearestNat_natCast] at hmono

/-- The number nearest to `x` is canonical in the place of `x`, or a carry takes it to the next
place. -/
theorem canonical_significandAt [f.Regular] (hx : 0 < x) :
    f.Canonical (f.significandAt x) (f.place x) ∨ f.significandAt x = 2 ^ f.precision := by
  rcases (significandAt_le (f := f) hx).lt_or_eq with hlt | heq
  · refine .inl ⟨hlt, f.minExponent_le_place x, fun hfirst => ?_⟩
    by_contra hne
    have hplace := lt_of_le_of_ne (f.minExponent_le_place x) (Ne.symm hne)
    exact absurd (le_significandAt hx hplace) (not_le.2 hfirst)
  · exact .inr heq

/-- What a carry leaves is the same number, in the next place. -/
theorem canonical_carried [f.Regular] (he : f.minExponent ≤ e) :
    f.Canonical (2 ^ (f.precision - 1)) (e + 1) ∧
      scaled (2 ^ (f.precision - 1)) (e + 1) = scaled (2 ^ f.precision) e := by
  have hp : 0 < f.precision := Regular.precision_pos
  refine ⟨⟨Nat.pow_lt_pow_right one_lt_two (by omega), by omega, ?_⟩, ?_⟩
  · exact fun hlt => absurd hlt (lt_irrefl _)
  · rw [scaled_firstBit, scaled_pow, add_sub_cancel_right]

/-- **Rounding gives the nearest number in canonical form**, or an infinity if its place is beyond
the format. -/
theorem round_spec [f.Regular] (hden : 0 < den) (s : Bool) (num : Nat) :
    ∃ m e, f.Canonical m e ∧ scaled m e = f.nearest (num / den) ∧
      f.round s num den = if f.maxExponent < e then .infinite s else .finite s m e := by
  have hsignificand := roundDiv_zpow .even two_pos hden num (f.lastPlace num den)
  rw [Nat.cast_ofNat] at hsignificand
  simp only [round, hsignificand]
  simp only [Nat.pow_eq]
  rcases Nat.eq_zero_or_pos num with rfl | hnum
  · have hzero : nearestNat .even (((0 : Nat) : ℚ) / den / 2 ^ f.lastPlace 0 den) = 0 := by
      simp [nearestNat, roundDiv]
    have hcarry : ¬ 0 = 2 ^ f.precision := (Nat.two_pow_pos _).ne
    refine ⟨0, f.minExponent, ⟨Nat.two_pow_pos _, le_rfl, fun _ => rfl⟩, by simp [scaled], ?_⟩
    rw [hzero, if_neg hcarry, if_neg hcarry, lastPlace, if_pos rfl]
  · have hx : (0 : ℚ) < num / den := div_pos (by exact_mod_cast hnum) (by exact_mod_cast hden)
    rw [lastPlace_eq hnum hden, ← significandAt]
    by_cases hcarry : f.significandAt (num / den) = 2 ^ f.precision
    · obtain ⟨hcanonical, hvalue⟩ := canonical_carried (f.minExponent_le_place (num / den : ℚ))
      refine ⟨_, _, hcanonical, ?_, ?_⟩
      · rw [hvalue, ← hcarry, scaled_significandAt]
      · rw [if_pos hcarry, if_pos hcarry]
    · have hcanonical := (canonical_significandAt hx).resolve_right hcarry
      refine ⟨_, _, hcanonical, scaled_significandAt _, ?_⟩
      rw [if_neg hcarry, if_neg hcarry]

/-- The quotients that are rounded to a datum: those of its sign whose nearest number it is. -/
theorem round_eq_finite_iff [f.Regular] (hden : 0 < den) (h : f.Canonical m e)
    (hlast : e ≤ f.maxExponent) :
    f.round s num den = .finite t m e ↔ s = t ∧ f.nearest (num / den) = scaled m e := by
  obtain ⟨m', e', h', hvalue, hround⟩ := round_spec (f := f) hden s num
  rw [hround, ← hvalue]
  constructor
  · intro heq
    split_ifs at heq
    obtain ⟨rfl, rfl, rfl⟩ := Datum.finite.inj heq
    exact ⟨rfl, rfl⟩
  · rintro ⟨rfl, heq⟩
    obtain ⟨rfl, rfl⟩ := h'.unique h heq
    rw [if_neg (not_lt.2 hlast)]

/-- A quotient that is rounded to an infinity is beyond the format. -/
theorem round_cases [f.Regular] (hden : 0 < den) (s : Bool) (num : Nat) :
    (f.round s num den).OfSize s (f.nearest (num / den)) ∨
      f.round s num den = .infinite s ∧
        (2 : ℚ) ^ (f.precision + (f.maxExponent - 1)) < num / den := by
  by_cases hrange : (num / den : ℚ) ≤ 2 ^ (f.precision + (f.maxExponent - 1))
  · exact .inl (round_ofSize hden hrange)
  · obtain ⟨m, e, -, hvalue, hround⟩ := round_spec (f := f) hden s num
    by_cases hlast : f.maxExponent < e
    · exact .inr ⟨by rw [hround, if_pos hlast], not_le.1 hrange⟩
    · exact .inl ⟨m, e, by rw [hround, if_neg hlast], hvalue⟩

theorem roundScaled_cases [f.Regular] (hden : 0 < den) (s : Bool) (num : Nat) (e : Int) :
    (f.roundScaled s num den e).OfSize s (f.nearest (scaled num e / den)) ∨
      f.roundScaled s num den e = .infinite s ∧
        (2 : ℚ) ^ (f.precision + (f.maxExponent - 1)) < scaled num e / den := by
  rw [← roundScaled_quotient]
  exact round_cases (Nat.mul_pos hden (Nat.two_pow_pos _)) s _

theorem ofNat_cases [f.Regular] (n : Nat) :
    (f.ofNat n).OfSize false (f.nearest n) ∨
      f.ofNat n = .infinite false ∧ (2 : ℚ) ^ (f.precision + (f.maxExponent - 1)) < n := by
  simpa [ofNat] using round_cases (f := f) Nat.one_pos false n

/-- A sum of numbers that are not negative is beyond the format, or it is rounded. -/
theorem add_cases [f.Regular] {d d' : Datum} {y : ℚ} (hd : d.OfSize false x)
    (hd' : d'.OfSize false y) :
    (f.add d d').OfSize false (f.nearest (x + y)) ∨
      f.add d d' = .infinite false ∧ (2 : ℚ) ^ (f.precision + (f.maxExponent - 1)) < x + y := by
  obtain ⟨m, e, rfl, rfl⟩ := hd
  obtain ⟨n, e', rfl, rfl⟩ := hd'
  -- both in units of the lower place
  have hsum : f.add (.finite false m e) (.finite false n e') =
      f.roundScaled false (m * Nat.pow 2 (e - e').toNat + n * Nat.pow 2 (e' - e).toNat) 1
        (min e e') := by
    simp only [add, Datum.aligned, Datum.signed, Bool.false_eq_true, if_false, ← Nat.cast_add,
      Int.natAbs_natCast]
    congr 1
    split_ifs
    · rfl
    · exact decide_eq_false (not_lt.2 (Int.natCast_nonneg _))
  have hvalue : scaled m e + scaled n e' = scaled (m * Nat.pow 2 (e - e').toNat +
      n * Nat.pow 2 (e' - e).toNat) (min e e') / (1 : Nat) := by
    have hleft : (e - e').toNat = (e - min e e').toNat := by omega
    have hright : (e' - e).toNat = (e' - min e e').toNat := by omega
    rw [scaled_eq_of_le (min_le_left e e'), scaled_eq_of_le (min_le_right e e'), ← hleft, ← hright,
      ← add_mul, Nat.cast_one, div_one, scaled]
    simp only [Nat.pow_eq]
    push_cast
    rfl
  rw [hsum, hvalue]
  exact roundScaled_cases Nat.one_pos false _ _

/-- What a number is rounded to is one of the format. -/
theorem exists_canonical_nearest [f.Regular] (hx : 0 < x) :
    ∃ m e, f.Canonical m e ∧ scaled m e = f.nearest x := by
  rcases canonical_significandAt (f := f) hx with hcanonical | hcarry
  · exact ⟨_, _, hcanonical, scaled_significandAt x⟩
  · obtain ⟨hcanonical, hvalue⟩ := canonical_carried (f := f) (f.minExponent_le_place x)
    exact ⟨_, _, hcanonical, by rw [hvalue, ← hcarry, scaled_significandAt]⟩

/-! ### Data of the format -/

/-- The datum is one that the format has: if it is a number, it is in canonical form and not beyond
the format. -/
def Holds (f : Format) (d : Datum) : Prop :=
  ∀ s m e, d = .finite s m e → f.Canonical m e ∧ e ≤ f.maxExponent

theorem holds_round [f.Regular] (hden : 0 < den) (s : Bool) (num : Nat) :
    f.Holds (f.round s num den) := by
  intro t m e h
  obtain ⟨m', e', hcanonical, -, hround⟩ := round_spec (f := f) hden s num
  rw [hround] at h
  split_ifs at h with hlast
  obtain ⟨-, rfl, rfl⟩ := Datum.finite.inj h
  exact ⟨hcanonical, not_lt.1 hlast⟩

theorem holds_ofNat [f.Regular] (n : Nat) : f.Holds (f.ofNat n) := holds_round Nat.one_pos false n

/-- A product is one of the data that the format has, whatever its factors are. -/
theorem holds_mul [f.Regular] (d d' : Datum) : f.Holds (f.mul d d') := by
  cases d with
  | nan => exact fun _ _ _ h => nomatch h
  | infinite s =>
    cases d' with
    | nan => exact fun _ _ _ h => nomatch h
    | infinite t => exact fun _ _ _ h => nomatch h
    | finite t n e' =>
      intro s m e h
      simp only [mul] at h
      split_ifs at h
  | finite s m e =>
    cases d' with
    | nan => exact fun _ _ _ h => nomatch h
    | infinite t =>
      intro s m e h
      simp only [mul] at h
      split_ifs at h
    | finite t n e' => exact holds_round (Nat.mul_pos Nat.one_pos (Nat.two_pow_pos _)) _ _

/-- Two data of the format that are the same number of the same sign are the same. -/
theorem Holds.eq [f.Regular] {d d' : Datum} (h : f.Holds d) (h' : f.Holds d') (hd : d.OfSize s x)
    (hd' : d'.OfSize s x) : d = d' := by
  obtain ⟨m, e, rfl, rfl⟩ := hd
  obtain ⟨n, e', rfl, heq⟩ := hd'
  obtain ⟨rfl, rfl⟩ := (h s m e rfl).1.unique (h' s n e' rfl).1 heq.symm
  rfl

/-! ### Words -/

theorem decode_eq_finite {word : Nat} (h : f.decode word = .finite s m e) :
    s = decide (f.signWeight ≤ word) ∧
      (e - f.minExponent).toNat * Nat.pow 2 (f.precision - 1) + m = word % f.signWeight := by
  have hcode := Nat.div_add_mod' (word % f.signWeight) (Nat.pow 2 (f.precision - 1))
  unfold decode at h
  extract_lets negative code field fraction at h
  split_ifs at h with hnan hinfinite hfield
  · obtain ⟨rfl, rfl, rfl⟩ := Datum.finite.inj h
    refine ⟨rfl, ?_⟩
    have hzero : word % f.signWeight / Nat.pow 2 (f.precision - 1) = 0 := hfield
    rw [hzero] at hcode
    rwa [sub_self]
  · obtain ⟨rfl, rfl, rfl⟩ := Datum.finite.inj h
    refine ⟨rfl, ?_⟩
    have hpos : 0 < field := Nat.pos_of_ne_zero hfield
    have hplace : (f.minExponent + (field - 1 : Nat) - f.minExponent).toNat + 1 = field := by
      rw [add_sub_cancel_left, Int.toNat_natCast, Nat.sub_add_cancel hpos]
    rw [← Nat.add_assoc, ← Nat.succ_mul, Nat.succ_eq_add_one, hplace]
    exact hcode

/-- **A word is known by its datum**, if that is a number. -/
theorem encode_of_decode {word : Nat} (hword : word < 2 * f.signWeight)
    (h : f.decode word = .finite s m e) : f.encode (.finite s m e) = word := by
  obtain ⟨rfl, hcode⟩ := decode_eq_finite h
  simp only [encode, hcode, decide_eq_true_eq]
  by_cases hle : f.signWeight ≤ word
  · rw [if_pos hle, Nat.mod_eq_sub_mod hle, Nat.mod_eq_of_lt (by omega)]
    omega
  · rw [if_neg hle, Nat.mod_eq_of_lt (by omega), Nat.zero_add]

end Format

end ShaperDash
