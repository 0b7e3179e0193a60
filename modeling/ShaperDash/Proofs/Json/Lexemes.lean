import Mathlib.Tactic.SplitIfs
import ShaperDash.Proofs.Json.Grammar
import ShaperDash.Proofs.Json.Turns

/-!
# Scanning what is spelled

The scanners take exactly what the grammar spells and leave the rest of the text.

* `scanNumber_spelled` : a number is read as the numeral that it spells.
* `scanString_spelled` : **a string is read as the characters of its units**, and refused if they
  have none.
* `skipString_spelled` : a string that nobody wants is passed over, whatever its units.
-/

namespace ShaperDash.Json

variable {cs rest : List Char}

/-! ### Digits -/

/-- The text does not go on with a digit. -/
def NoDigit (rest : List Char) : Prop := ∀ c ∈ rest.head?, isDigit c = false

theorem takeWhile_isDigit_digits (h : ∀ c ∈ cs, isDigit c = true) (hr : NoDigit rest) :
    (cs ++ rest).takeWhile isDigit = cs := by
  rw [List.takeWhile_append_of_pos h]
  cases rest with
  | nil => simp
  | cons c r => simp [hr c rfl]

theorem pastDigits_digits (h : ∀ c ∈ cs, isDigit c = true) (hr : NoDigit rest) :
    pastDigits (cs ++ rest) = rest := by
  rw [pastDigits, List.dropWhile_append_of_pos h]
  cases rest with
  | nil => rfl
  | cons c r => simp [hr c rfl]

theorem leadingDigits_digits (h : ∀ c ∈ cs, isDigit c = true) (hr : NoDigit rest) :
    leadingDigits (cs ++ rest) = digitValues cs := by
  rw [leadingDigits, takeWhile_isDigit_digits h hr, digitValues]

theorem NoDigit.leadingDigits (hr : NoDigit rest) : Json.leadingDigits rest = [] :=
  leadingDigits_digits (List.forall_mem_nil _) hr

theorem digitValues_ne_nil (h : IsDigitRun cs) : digitValues cs ≠ [] := by
  simpa [digitValues] using h.1

/-! ### Numbers -/

variable {e : Cause}

theorem scanDigits_spelled (h : IsDigitRun cs) (hr : NoDigit rest) :
    scanDigits e (cs ++ rest) = .ok (digitValues cs, rest) := by
  rw [scanDigits, leadingDigits_digits h.2 hr, pastDigits_digits h.2 hr,
    if_neg (by simpa using digitValues_ne_nil h)]

theorem scanWhole_spelled {w : List Nat} (h : SpellsWhole w cs) (hr : NoDigit rest) :
    scanWhole e (cs ++ rest) = .ok (w, rest) := by
  cases h with
  | zero => simp [scanWhole, hr.leadingDigits]
  | @digits c cs hc hd =>
    have hds : ∀ d ∈ cs, isDigit d = true := fun d hm => hd.2 d (List.mem_cons_of_mem c hm)
    have hl := leadingDigits_digits hd.2 hr
    rw [List.cons_append] at hl
    simp only [List.cons_append, scanWhole, if_neg hc, hd.2 c List.mem_cons_self, if_true, hl,
      pastDigits_digits hds hr]

theorem scanFraction_spelled {f : List Nat} (h : SpellsFraction f cs)
    (hr : ∀ c ∈ rest.head?, isDigit c = false ∧ c ≠ '.') :
    scanFraction e (cs ++ rest) = .ok (f, rest) := by
  cases h with
  | none =>
    cases rest with
    | nil => rfl
    | cons c r => simp [scanFraction, (hr c rfl).2]
  | digits hd => exact scanDigits_spelled hd fun c hc => (hr c hc).1

theorem scanSign_spelled {negative : Bool} {sign : List Char} (hs : SpellsSign negative sign)
    (hd : IsDigitRun cs) : scanSign (sign ++ (cs ++ rest)) = (negative, cs ++ rest) := by
  cases hs with
  | none =>
    -- the first digit is not taken for a sign
    obtain ⟨c, cs, rfl⟩ := List.exists_cons_of_ne_nil hd.1
    have hc := hd.2 c List.mem_cons_self
    have hm : c ≠ '-' := by rintro rfl; revert hc; decide
    have hp : c ≠ '+' := by rintro rfl; revert hc; decide
    simp [scanSign, hm, hp]
  | plus => rfl
  | minus => rfl

theorem scanExponent_spelled {x : Option (Bool × List Nat)} (h : SpellsExponent x cs)
    (hr : Delimited rest) : scanExponent e (cs ++ rest) = .ok (x, rest) := by
  cases h with
  | none =>
    cases rest with
    | nil => rfl
    | cons c r => simp [scanExponent, (hr c rfl).2.2]
  | digits he hs hd =>
    simp only [List.cons_append, List.append_assoc, scanExponent, if_pos he,
      scanSign_spelled hs hd, scanDigits_spelled hd fun c hc => (hr c hc).1, ok_map]

theorem SpellsExponent.follows {x : Option (Bool × List Nat)} (h : SpellsExponent x cs)
    (hr : Delimited rest) : ∀ c ∈ (cs ++ rest).head?, isDigit c = false ∧ c ≠ '.' := by
  intro c hc
  cases h with
  | none => exact ⟨(hr c hc).1, (hr c hc).2.1⟩
  | digits he _ _ =>
    obtain rfl : _ = c := by simpa using hc
    obtain rfl | rfl := he <;> decide

theorem SpellsFraction.follows {f : List Nat} (h : SpellsFraction f cs) (hr : NoDigit rest) :
    NoDigit (cs ++ rest) := by
  intro c hc
  cases h with
  | none => exact hr c hc
  | digits _ =>
    obtain rfl : '.' = c := by simpa using hc
    decide

theorem scanUnsigned_spelled {negative : Bool} {w f : List Nat} {x : Option (Bool × List Nat)}
    {cw cf cx : List Char} (hw : SpellsWhole w cw) (hf : SpellsFraction f cf)
    (hx : SpellsExponent x cx) (hr : Delimited rest) :
    scanUnsigned e negative (cw ++ (cf ++ (cx ++ rest))) = .ok (⟨negative, w, f, x⟩, rest) := by
  have hfollow := hx.follows hr
  have hdigits : NoDigit (cf ++ (cx ++ rest)) := hf.follows fun c hc => (hfollow c hc).1
  simp only [scanUnsigned, scanWhole_spelled hw hdigits, scanFraction_spelled hf hfollow,
    scanExponent_spelled hx hr, ok_bind]
  rfl

theorem scanNumber_spelled {n : Numeral} (h : SpellsNumeral n cs) (hr : Delimited rest) :
    scanNumber e (cs ++ rest) = .ok (n, rest) := by
  cases h with
  | negative hw hf hx =>
    simpa [scanNumber] using scanUnsigned_spelled hw hf hx hr
  | positive hw hf hx =>
    obtain ⟨c, r, rfl, hc⟩ := hw.opens
    have hm : c ≠ '-' := by rintro rfl; revert hc; decide
    simpa [scanNumber, hm] using scanUnsigned_spelled hw hf hx hr

theorem readNumber_spelled {n : Numeral} (h : SpellsNumeral n cs) (hr : Delimited rest) :
    (readNumber (cs ++ rest)).toOption = n.value.toOption.map (·, rest) := by
  simp only [readNumber, scanNumber_spelled h hr, ok_bind]
  cases n.value <;> rfl

/-! ### Characters and their units -/

theorem toNat_lt_or_lt (c : Char) :
    c.toNat < 0xD800 ∨ (0xDFFF < c.toNat ∧ c.toNat < 0x110000) := by
  have := c.valid
  simp only [UInt32.isValidChar, Nat.isValidChar] at this
  simp only [Char.toNat]
  omega

theorem isLeading_iff {n : Nat} : isLeading n = true ↔ 0xD800 ≤ n ∧ n ≤ 0xDBFF := by
  simp [isLeading]

theorem isTrailing_iff {n : Nat} : isTrailing n = true ↔ 0xDC00 ≤ n ∧ n ≤ 0xDFFF := by
  simp [isTrailing]

theorem not_isTrailing_of_isLeading {n : Nat} (h : isLeading n = true) : ¬ isTrailing n = true := by
  rw [isLeading_iff] at h
  rw [isTrailing_iff]
  omega

theorem charactersOf_single {u : Nat} (hl : ¬ isLeading u = true) (ht : ¬ isTrailing u = true)
    (us : Units) : charactersOf (u :: us) = (charactersOf us).map (Char.ofNat u :: ·) := by
  rw [charactersOf.eq_def]
  simp only [if_neg ht, if_neg hl]

theorem charactersOf_pair {u v : Nat} (hl : isLeading u = true) (ht : isTrailing v = true)
    (us : Units) :
    charactersOf (u :: v :: us) = (charactersOf us).map (pairedCharacter u v :: ·) := by
  rw [charactersOf.eq_def]
  simp only [if_neg (not_isTrailing_of_isLeading hl), if_pos hl, if_pos ht]

theorem charactersOf_trailing {u : Nat} (ht : isTrailing u = true) (us : Units) :
    charactersOf (u :: us) = none := by
  rw [charactersOf.eq_def]
  simp only [if_pos ht]

/-- The first half of a pair is nothing without the second half behind it. -/
theorem charactersOf_leading {u : Nat} (hl : isLeading u = true) {us : Units}
    (h : ∀ v ∈ us.head?, ¬ isTrailing v = true) : charactersOf (u :: us) = none := by
  rw [charactersOf.eq_def]
  split
  · simp_all
  · next heq =>
    cases heq
    split_ifs
    · rfl
    · cases us with
      | nil => rfl
      | cons v us => simp only [if_neg (h v rfl)]

/-- The units of a character give the character back, whatever comes behind them. -/
theorem charactersOf_unitsOf (c : Char) (us : Units) :
    charactersOf (unitsOf c ++ us) = (charactersOf us).map (c :: ·) := by
  have hc := toNat_lt_or_lt c
  unfold unitsOf
  split
  · -- no character is a surrogate
    rw [List.singleton_append, charactersOf_single, Char.ofNat_toNat]
    · rw [isLeading_iff]; omega
    · rw [isTrailing_iff]; omega
  · rw [List.cons_append, List.singleton_append, charactersOf_pair]
    · have hp : 0x10000 + (c.toNat - 0x10000) / 0x400 * 0x400 + (c.toNat - 0x10000) % 0x400 =
          c.toNat := by omega
      simp only [pairedCharacter, Nat.add_sub_cancel_left, hp, Char.ofNat_toNat]
    · rw [isLeading_iff]; omega
    · rw [isTrailing_iff]; omega

/-- The units of a character do not begin with the second half of a pair. -/
theorem not_isTrailing_unitsOf (c : Char) (us : Units) :
    ∀ v ∈ (unitsOf c ++ us).head?, ¬ isTrailing v = true := by
  have hc := toNat_lt_or_lt c
  intro v hv
  rw [isTrailing_iff]
  unfold unitsOf at hv
  split at hv
  · obtain rfl : c.toNat = v := by simpa using hv
    omega
  · obtain rfl : 0xD800 + (c.toNat - 0x10000) / 0x400 = v := by simpa using hv
    omega

/-! ### Strings -/

theorem scanHex_digits {a b c d : Char} {i j k l : Nat} (ha : hexValue a = some i)
    (hb : hexValue b = some j) (hc : hexValue c = some k) (hd : hexValue d = some l) :
    scanHex (a :: b :: c :: d :: cs) = .ok (((i * 16 + j) * 16 + k) * 16 + l, cs) := by
  simp [scanHex, hexQuad, ha, hb, hc, hd]

theorem scanString_quote : scanString ('"' :: rest) = .ok ([], rest) := scanString_close rfl

theorem scanString_plain {c : Char} (hs : ' ' ≤ c) (hq : c ≠ '"') (hb : c ≠ '\\') :
    scanString (c :: cs) = (scanString cs).map fun (s, rest) => (c :: s, rest) :=
  scanString_char (by simp [scanStringChar, hq, hb, Char.not_lt.2 hs])

theorem scanString_escape :
    (scanString ('\\' :: cs)).toOption = (scanEscape cs).toOption.bind fun (d, rest) =>
      (scanString rest).toOption.map fun (s, rest) => (d :: s, rest) := by
  have hc : scanStringChar ('\\' :: cs) = (scanEscape cs).map fun (d, rest) => (some d, rest) := by
    simp [scanStringChar]
  cases he : scanEscape cs with
  | error e =>
    rw [he] at hc
    rw [scanString_error hc]
    rfl
  | ok p =>
    rw [he] at hc
    rw [scanString_char hc, toOption_map]
    rfl

theorem ne_u_of_letterEscape {c d : Char} (h : letterEscape c = some d) : c ≠ 'u' := by
  rintro rfl
  simp [letterEscape] at h

section

variable {u v : Nat} {ds : List Char}

theorem scanUnicode_single (hx : scanHex ds = .ok (u, cs)) (hl : ¬ isLeading u = true)
    (ht : ¬ isTrailing u = true) : scanUnicode ds = .ok (Char.ofNat u, cs) := by
  simp only [scanUnicode, hx, ok_bind, if_neg ht, if_neg hl]
  rfl

theorem scanUnicode_pair (hx : scanHex ds = .ok (u, '\\' :: 'u' :: cs)) (hl : isLeading u = true)
    (hx' : scanHex cs = .ok (v, rest)) (ht : isTrailing v = true) :
    scanUnicode ds = .ok (pairedCharacter u v, rest) := by
  simp only [scanUnicode, hx, ok_bind, if_neg (not_isTrailing_of_isLeading hl), if_pos hl,
    scanPairMark, if_true, hx', if_pos ht]
  rfl

theorem scanUnicode_trailing (hx : scanHex ds = .ok (u, cs)) (ht : isTrailing u = true) :
    (scanUnicode ds).toOption = none := by
  simp only [scanUnicode, hx, ok_bind, if_pos ht]
  rfl

/-- A unit that is the first half of a pair is refused unless the string goes on with an escape of
the second half. -/
theorem scanUnicode_unpaired {us : Units} (hx : scanHex ds = .ok (u, cs ++ '"' :: rest))
    (hl : isLeading u = true) (h : SpellsText us cs)
    (ht : ∀ v ∈ us.head?, ¬ isTrailing v = true) : (scanUnicode ds).toOption = none := by
  simp only [scanUnicode, hx, ok_bind, if_neg (not_isTrailing_of_isLeading hl), if_pos hl]
  -- whatever the string goes on with, it is not what the scanner waits for
  cases h with
  | nil => simp [scanPairMark, toOption_bind]
  | plain _ _ hb _ => simp [scanPairMark, toOption_bind, hb]
  | letter he _ => simp [scanPairMark, toOption_bind, ne_u_of_letterEscape he]
  | unit ha hb hc hd _ =>
    have hv := ht _ rfl
    simp [scanPairMark, scanHex_digits ha hb hc hd, hv]

end

theorem scanEscape_unit : scanEscape ('u' :: cs) = scanUnicode cs := rfl

/-- **A string is read as the characters of its units**, and refused if they have none. -/
theorem scanString_spelled {us : Units} (h : SpellsText us cs) :
    (scanString (cs ++ '"' :: rest)).toOption = (charactersOf us).map (·, rest) := by
  -- a pair of escapes is one character, so the induction is on the length of the text
  induction hn : cs.length using Nat.strongRecOn generalizing us cs with
  | ind n ih =>
    subst hn
    cases h with
    | nil => rw [List.nil_append, scanString_quote]; rfl
    | @plain c us cs hs hq hb h =>
      rw [List.cons_append, scanString_plain hs hq hb, toOption_map, ih _ (by simp) h rfl,
        charactersOf_unitsOf]
      cases charactersOf us <;> rfl
    | @letter c d us cs he h =>
      have hu := ne_u_of_letterEscape he
      have hd : scanEscape (c :: (cs ++ '"' :: rest)) = .ok (d, cs ++ '"' :: rest) := by
        simp [scanEscape, hu, he]
      rw [List.cons_append, List.cons_append, scanString_escape, hd, charactersOf_unitsOf]
      simp only [ok_toOption, Option.bind_some]
      rw [ih _ (by simp only [List.length_cons]; omega) h rfl]
      cases charactersOf us <;> rfl
    | @unit a b c d i j k l us cs ha hb hc hd h =>
      have hx : ∀ r, scanHex (a :: b :: c :: d :: r) = .ok (_, r) := fun r =>
        scanHex_digits ha hb hc hd
      generalize ((i * 16 + j) * 16 + k) * 16 + l = u at hx ⊢
      simp only [List.cons_append]
      rw [scanString_escape, scanEscape_unit]
      by_cases ht : isTrailing u = true
      · rw [charactersOf_trailing ht, scanUnicode_trailing (hx _) ht]
        rfl
      by_cases hl : isLeading u = true
      · by_cases hv : ∀ v ∈ us.head?, ¬ isTrailing v = true
        · rw [charactersOf_leading hl hv, scanUnicode_unpaired (hx _) hl h hv]
          rfl
        · -- only an escape spells the second half of a pair
          cases h with
          | nil => simp at hv
          | plain => exact absurd (not_isTrailing_unitsOf _ _) hv
          | letter => exact absurd (not_isTrailing_unitsOf _ _) hv
          | @unit a' b' c' d' i' j' k' l' us cs ha' hb' hc' hd' h =>
            have hv : isTrailing (((i' * 16 + j') * 16 + k') * 16 + l') = true := by simpa using hv
            have hx' : scanHex (a' :: b' :: c' :: d' :: (cs ++ '"' :: rest)) = .ok (_, _) :=
              scanHex_digits ha' hb' hc' hd'
            simp only [List.cons_append]
            rw [charactersOf_pair hl hv, scanUnicode_pair (hx _) hl hx' hv]
            simp only [ok_toOption, Option.bind_some]
            rw [ih _ (by simp only [List.length_cons]; omega) h rfl]
            cases charactersOf us <;> rfl
      · rw [charactersOf_single hl ht, scanUnicode_single (hx _) hl ht]
        simp only [ok_toOption, Option.bind_some]
        rw [ih _ (by simp only [List.length_cons]; omega) h rfl]
        cases charactersOf us <;> rfl

/-! ### Strings that nobody wants -/

theorem skipString_spelled {us : Units} (h : SpellsText us cs) :
    skipString (cs ++ '"' :: rest) = .ok rest := by
  induction h with
  | nil => exact skipString_close rfl
  | plain hs hq hb _ ih =>
    rw [← ih]
    exact skipString_char (by simp [skipStringChar, hq, hb, Char.not_lt.2 hs])
  | letter he _ ih =>
    rw [← ih]
    exact skipString_char (by simp [skipStringChar, ne_u_of_letterEscape he, he])
  | unit ha hb hc hd _ ih =>
    rw [← ih]
    exact skipString_char (by simp [skipStringChar, scanHex_digits ha hb hc hd])

end ShaperDash.Json
