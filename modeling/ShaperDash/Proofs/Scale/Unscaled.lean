import ShaperDash.Proofs.Number.Fewest
import ShaperDash.Proofs.Scale.Labels

/-!
# Labels without a unit lose nothing

A label without a unit is read back in two steps.  The text spells a sign and a decimal number, zero
having a sign too; the decimal number is then rounded to the nearest 64-bit datum.  What comes out
is the datum that was written, and so the word behind it.

* `Decimal.readSigned` : the decimal number that a numeral spells, with its sign.
* `Decimal.toDatum_eq_iff` : which decimal numbers are rounded to a datum.
* `scaleNumber_reads_back` : **a label without a unit reads back as its number, no decimal number
  with fewer significant digits does, and no two numbers share such a label.**
-/

namespace ShaperDash

namespace Decimal

variable {cs : List Char} {d d' : Decimal} {s t : Bool} {m : Nat} {e : Int} {x : ℚ}

/-! ### Reading -/

/-- The decimal number that digits spell, with a point and digits behind it or without. -/
def read (cs : List Char) : Option Decimal :=
  match cs.dropWhile (· ≠ '.') with
  | [] => (readDigits cs).map fun n => ⟨n, 0⟩
  | _ :: fraction =>
    (readDigits (cs.takeWhile (· ≠ '.'))).bind fun whole =>
      (readDigits fraction).map fun part =>
        ⟨whole * 10 ^ fraction.length + part, -fraction.length⟩

/-- The decimal number that a numeral spells, with its sign. -/
def readSigned : List Char → Option (Bool × Decimal)
  | '-' :: cs => (read cs).map fun d => (true, d)
  | cs => (read cs).map fun d => (false, d)

/-- A text spells the decimal number that it denotes. -/
theorem map_value_read (cs : List Char) : (read cs).map value = readUnsigned cs := by
  cases hpoint : cs.dropWhile (· ≠ '.') with
  | nil =>
    simp only [read, readUnsigned, hpoint]
    cases readDigits cs with
    | none => rfl
    | some n => simp [value]
  | cons _ fraction =>
    simp only [read, readUnsigned, hpoint]
    cases readDigits (cs.takeWhile (· ≠ '.')) with
    | none => rfl
    | some whole =>
      cases readDigits fraction with
      | none => rfl
      | some part =>
        have hpos : (10 : ℚ) ^ fraction.length ≠ 0 := by positivity
        simp only [Option.bind_some, Option.map_some, value, zpow_neg, zpow_natCast]
        push_cast
        rw [← div_eq_mul_inv, add_div, mul_div_cancel_right₀ _ hpos]

theorem read_of_isNumeral (h : IsNumeral cs x) : ∃ d, read cs = some d ∧ d.value = x :=
  Option.map_eq_some_iff.1 ((map_value_read cs).trans h.readUnsigned_eq)

theorem readSigned_of_isNumeral (h : IsNumeral cs x) (s : Bool) :
    ∃ d, readSigned (Datum.sign s ++ cs) = some (s, d) ∧ d.value = x := by
  obtain ⟨d, hread, hvalue⟩ := read_of_isNumeral h
  refine ⟨d, ?_, hvalue⟩
  cases s with
  | true => simp [Datum.sign, readSigned, hread]
  | false =>
    obtain ⟨c, r, rfl, hc⟩ := h.exists_cons
    have hne : c ≠ '-' := by
      rintro rfl
      exact absurd hc (by decide)
    simp [Datum.sign, readSigned, hne, hread]

/-! ### Rounding -/

/-- The 64-bit datum nearest to `±d`, ties to the even significand. -/
def toDatum (negative : Bool) (d : Decimal) : Datum :=
  binary64.round negative (d.coefficient * Nat.pow 10 d.exponent.toNat)
    (Nat.pow 10 (-d.exponent).toNat)

/-- The decimal numbers that are rounded to a datum: those of its sign whose nearest number it
is. -/
theorem toDatum_eq_iff (h : binary64.Canonical m e) (hlast : e ≤ binary64.maxExponent) :
    d.toDatum s = .finite t m e ↔ s = t ∧ binary64.nearest d.value = scaled m e := by
  have hden : 0 < Nat.pow 10 (-d.exponent).toNat := Nat.pow_pos (by decide)
  have hquotient : ((d.coefficient * Nat.pow 10 d.exponent.toNat : Nat) /
      (Nat.pow 10 (-d.exponent).toNat : Nat) : ℚ) = d.value := by
    rw [value, ten_zpow_eq, mul_div_assoc', Nat.cast_mul]
  rw [toDatum, Format.round_eq_finite_iff hden h hlast, hquotient]

/-- A decimal number with the value of the shortest numeral is rounded to the number spelled. -/
theorem toDatum_of_shortest {tie : Tie} (h : binary64.Canonical m e)
    (hlast : e ≤ binary64.maxExponent) (hd : d.value = (binary64.shortest tie m e).value) :
    d.toDatum s = .finite s m e := by
  rw [toDatum_eq_iff h hlast, hd]
  exact ⟨rfl, Format.nearest_shortest h⟩

end Decimal

/-! ### The labels -/

variable {x : ℚ}

/-- What a label without a unit spells. -/
theorem readSigned_scaleNumber {word : Nat} (hx : (binary64.decode word).number? = some x)
    (hle : x ≤ 1000) :
    ∃ s m e d, binary64.decode word = .finite s m e ∧
      Decimal.readSigned (scaleNumber (binary64.decode word)).toList = some (s, d) ∧
      d.value = (binary64.shortest .up m e).value := by
  obtain ⟨s, m, e, hword, -, -, -⟩ := canonical_of_number hx
  have hnumeral := Decimal.isNumeral_positional (binary64.shortest .up m e)
  obtain ⟨d, hread, hvalue⟩ := Decimal.readSigned_of_isNumeral hnumeral s
  refine ⟨s, m, e, d, hword, ?_, hvalue⟩
  rw [scaleNumber_plain hx hle, hword, Datum.plain, String.toList_ofList, hread]

theorem toDatum_of_readSigned {word : Nat} (hx : (binary64.decode word).number? = some x)
    (hle : x ≤ 1000) {s : Bool} {d : Decimal}
    (h : Decimal.readSigned (scaleNumber (binary64.decode word)).toList = some (s, d)) :
    d.toDatum s = binary64.decode word := by
  obtain ⟨t, m, e, d', hword, hread, hvalue⟩ := readSigned_scaleNumber hx hle
  obtain ⟨hcanonical, hlast⟩ := Format.canonical_of_decode hword
  obtain ⟨rfl, rfl⟩ := Prod.mk.inj (Option.some.inj (hread.symm.trans h))
  rw [hword, Decimal.toDatum_of_shortest hcanonical hlast hvalue]

/-- Words with the same number are the same. -/
theorem eq_of_decode_eq {v w : UInt64} (hx : (binary64.decode w.toNat).number? = some x)
    (h : binary64.decode v.toNat = binary64.decode w.toNat) : v = w := by
  obtain ⟨s, m, e, hword, -⟩ := Datum.eq_finite hx
  have hrange : 2 * binary64.signWeight = UInt64.size := by decide +kernel
  have hv := Format.encode_of_decode (hrange ▸ v.toNat_lt_size) (h.trans hword)
  have hw := Format.encode_of_decode (hrange ▸ w.toNat_lt_size) hword
  exact UInt64.toNat_inj.1 (hv.symm.trans hw)

/-- **Labels without a unit lose nothing.**  The label of a number up to a thousand, read back to
the nearest 64-bit datum, gives the datum written; no decimal number with fewer significant digits
does; and no other number up to a thousand has the same label. -/
theorem scaleNumber_reads_back (w : UInt64) (hx : (binary64.decode w.toNat).number? = some x)
    (hle : x ≤ 1000) :
    (∃ s d, Decimal.readSigned (scaleNumber (binary64.decode w.toNat)).toList = some (s, d) ∧
      d.toDatum s = binary64.decode w.toNat ∧
      ∀ t d', Decimal.toDatum t d' = binary64.decode w.toNat →
        d.significant.length ≤ d'.significant.length) ∧
    ∀ (v : UInt64) (y : ℚ), (binary64.decode v.toNat).number? = some y → y ≤ 1000 →
      scaleNumber (binary64.decode v.toNat) = scaleNumber (binary64.decode w.toNat) → v = w := by
  obtain ⟨s, m, e, d, hword, hread, hvalue⟩ := readSigned_scaleNumber hx hle
  obtain ⟨hcanonical, hlast⟩ := Format.canonical_of_decode hword
  refine ⟨⟨s, d, hread, toDatum_of_readSigned hx hle hread, ?_⟩, ?_⟩
  · intro t d' hd'
    rw [hword, Decimal.toDatum_eq_iff hcanonical hlast] at hd'
    exact Format.length_significant_shortest_le (by decide) hcanonical hd'.2 hvalue
  · intro v y hy hley hlabel
    rw [← hlabel] at hread
    have hv := toDatum_of_readSigned hy hley hread
    rw [hlabel] at hread
    exact eq_of_decode_eq hx (hv.symm.trans (toDatum_of_readSigned hx hle hread))

/-- The greatest number below zero, and the two zeros. -/
theorem scaleNumber_reads_back_near_zero :
    (∃ s d, Decimal.readSigned (scaleNumber
        (binary64.decode (0x8000000000000001 : UInt64).toNat)).toList = some (s, d) ∧
      d.toDatum s = binary64.decode (0x8000000000000001 : UInt64).toNat ∧
      ∀ t d', Decimal.toDatum t d' = binary64.decode (0x8000000000000001 : UInt64).toNat →
        d.significant.length ≤ d'.significant.length) ∧
    scaleNumber (binary64.decode (0x8000000000000000 : UInt64).toNat) ≠
      scaleNumber (binary64.decode (0 : UInt64).toNat) := by
  constructor
  · refine (scaleNumber_reads_back 0x8000000000000001
      (x := -(1 : Nat) * 2 ^ (-1074 : Int)) rfl ?_).1
    have hpos := two_zpow_pos (-1074)
    rw [Nat.cast_one]
    linarith
  · intro hlabel
    have hzero : (binary64.decode (0 : UInt64).toNat).number? =
        some ((0 : Nat) * 2 ^ (-1074 : Int) : ℚ) := rfl
    have hminus : (binary64.decode (0x8000000000000000 : UInt64).toNat).number? =
        some (-(0 : Nat) * 2 ^ (-1074 : Int) : ℚ) := rfl
    have heq := (scaleNumber_reads_back 0 hzero (by norm_num)).2 _ _ hminus (by norm_num) hlabel
    exact absurd heq (by decide)

end ShaperDash
