import ShaperDash.Proofs.Number.Numerals

/-!
# Digits and their number

Digits are told by the number that they denote together with how many they are.  So the numerals of
a fixed width are those that fill a number up with zeros, and the numerals without superfluous zeros
are those that spell a number.

* `eq_of_ofDigitChars_eq` : **so many digits for a number are the only ones**.
* `zeroPadded_ofDigitChars` : digits fill their number up to their own width.
* `IsWholeNumeral.digitsOf_eq` : digits without superfluous zeros spell their number.
-/

namespace ShaperDash

variable {cs ds : List Char} {width n : Nat}

/-! ### The last digit -/

theorem ofDigitChars_concat (cs : List Char) (c : Char) :
    Nat.ofDigitChars 10 (cs ++ [c]) 0 =
      10 * Nat.ofDigitChars 10 cs 0 + (c.toNat - '0'.toNat) := by
  rw [Nat.ofDigitChars_append, Nat.ofDigitChars_cons, Nat.ofDigitChars_nil]

theorem digit_bounds {c : Char} (h : c.isDigit = true) : 48 ≤ c.toNat ∧ c.toNat ≤ 57 :=
  Char.isDigit_iff_toNat.1 h

theorem ofDigitChars_lt (h : ∀ c ∈ cs, c.isDigit = true) :
    Nat.ofDigitChars 10 cs 0 < 10 ^ cs.length := by
  induction cs using List.reverseRecOn with
  | nil => simp
  | append_singleton cs c ih =>
    obtain ⟨hcs, hc⟩ := List.forall_mem_append.1 h
    have hfront := ih hcs
    have hlast := digit_bounds (hc c List.mem_cons_self)
    rw [ofDigitChars_concat, List.length_append, List.length_singleton, Nat.pow_succ]
    rw [show '0'.toNat = 48 from rfl]
    omega

/-- So many digits for a number are the only ones. -/
theorem eq_of_ofDigitChars_eq (h : ∀ c ∈ cs, c.isDigit = true) (h' : ∀ c ∈ ds, c.isDigit = true)
    (hlength : cs.length = ds.length)
    (hvalue : Nat.ofDigitChars 10 cs 0 = Nat.ofDigitChars 10 ds 0) : cs = ds := by
  induction cs using List.reverseRecOn generalizing ds with
  | nil => exact (List.length_eq_zero_iff.1 hlength.symm).symm
  | append_singleton cs c ih =>
    obtain rfl | ⟨ds, d, rfl⟩ := List.eq_nil_or_concat' ds
    · simp at hlength
    · obtain ⟨hcs, hc⟩ := List.forall_mem_append.1 h
      obtain ⟨hds, hd⟩ := List.forall_mem_append.1 h'
      have hlast := digit_bounds (hc c List.mem_cons_self)
      have hlast' := digit_bounds (hd d List.mem_cons_self)
      rw [ofDigitChars_concat, ofDigitChars_concat, show '0'.toNat = 48 from rfl] at hvalue
      -- a digit is less than ten, so the last digits agree and so do the numbers before them
      have hfront : cs = ds := ih hcs hds (by simpa using hlength) (by omega)
      have hdigit : c = d := Char.toNat_inj.1 (by omega)
      rw [hfront, hdigit]

/-! ### Fixed width -/

theorem ofDigitChars_zeroPadded (width n : Nat) :
    Nat.ofDigitChars 10 (zeroPadded width n) 0 = n := by
  rw [zeroPadded, Nat.ofDigitChars_append, Nat.ofDigitChars_replicate_zero, Nat.mul_zero,
    ofDigitChars_digitsOf]

theorem isDigits_zeroPadded (width n : Nat) : IsDigits (zeroPadded width n) :=
  isDigits_replicate_append _ (isDigits_digitsOf n)

/-- Digits fill their number up to their own width. -/
theorem zeroPadded_ofDigitChars (h : IsDigits cs) :
    zeroPadded cs.length (Nat.ofDigitChars 10 cs 0) = cs := by
  have hlength := length_zeroPadded (List.length_pos_iff.2 h.1) (ofDigitChars_lt h.2)
  exact eq_of_ofDigitChars_eq (isDigits_zeroPadded _ _).2 h.2 hlength (ofDigitChars_zeroPadded _ _)

/-! ### No superfluous zeros -/

/-- Digits that begin with no zero, unless the zero is the only one. -/
structure IsWholeNumeral (cs : List Char) : Prop where
  digits : IsDigits cs
  head : cs.head? = some '0' → cs = ['0']

theorem isWholeNumeral_digitsOf (n : Nat) : IsWholeNumeral (digitsOf n) := by
  refine ⟨isDigits_digitsOf n, fun hhead => ?_⟩
  obtain rfl | hn := Nat.eq_zero_or_pos n
  · rfl
  · exact absurd hhead (head_digitsOf hn)

/-- Digits without superfluous zeros spell their number. -/
theorem IsWholeNumeral.digitsOf_eq (h : IsWholeNumeral cs) :
    digitsOf (Nat.ofDigitChars 10 cs 0) = cs := by
  have hpadded := zeroPadded_ofDigitChars h.digits
  rw [zeroPadded] at hpadded
  cases hzeros : cs.length - digitCount (Nat.ofDigitChars 10 cs 0) with
  | zero => rwa [hzeros] at hpadded
  | succ k =>
    -- with a zero before the number there is nothing but that zero
    have hhead : cs.head? = some '0' := by
      rw [← hpadded, hzeros]
      rfl
    rw [h.head hhead]
    rfl

end ShaperDash
