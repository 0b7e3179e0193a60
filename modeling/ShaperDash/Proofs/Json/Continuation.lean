import Mathlib.Data.List.Basic
import ShaperDash.Proofs.Json.Turns

/-!
# Scanning a text that goes on

A scanner that succeeds on a text does the same on every longer text, with the addition left behind
what it left before, as long as it could see where to stop.  Strings and words show their end
themselves; a number ends only where something else begins, so it has to leave something unread.
-/

namespace ShaperDash.Json

variable {cs rest : List Char} (more : List Char)

/-! ### Blanks and words -/

theorem skipBlanks_append {c : Char} (h : skipBlanks cs = c :: rest) :
    skipBlanks (cs ++ more) = c :: (rest ++ more) := by
  unfold skipBlanks at h ⊢
  rw [List.dropWhile_append, h]
  simp

theorem scanWord_append {word : List Char} (h : scanWord word cs = .ok rest) :
    scanWord word (cs ++ more) = .ok (rest ++ more) := by
  induction word generalizing cs with
  | nil => simpa [scanWord] using h
  | cons w ws ih =>
    cases cs with
    | nil => simp [scanWord, failAt] at h
    | cons c cs =>
      simp only [scanWord, List.cons_append] at h ⊢
      split_ifs at h ⊢ with hc
      · exact ih h
      · simp [failPast] at h

/-! ### Escapes -/

theorem hexQuad_append {n : Nat} (h : hexQuad cs = some (n, rest)) :
    hexQuad (cs ++ more) = some (n, rest ++ more) := by
  unfold hexQuad at h
  split at h
  · simp only [Option.bind_eq_bind, Option.bind_eq_some_iff, Option.pure_def] at h
    obtain ⟨a, ha, b, hb, c, hc, d, hd, h⟩ := h
    simp only [Option.some.injEq, Prod.mk.injEq] at h
    simp [hexQuad, ha, hb, hc, hd, h.1, h.2]
  · simp at h

theorem scanHex_append {n : Nat} (h : scanHex cs = .ok (n, rest)) :
    scanHex (cs ++ more) = .ok (n, rest ++ more) := by
  unfold scanHex at h
  split at h
  · next r hr =>
    obtain rfl : r = (n, rest) := by simpa using h
    simp [scanHex, hexQuad_append more hr]
  · split at h <;> simp [failAt] at h

theorem scanPairMark_append {m : Char} (h : scanPairMark m cs = .ok rest) :
    scanPairMark m (cs ++ more) = .ok (rest ++ more) := by
  unfold scanPairMark at h
  split at h
  · simp [failAt] at h
  · split at h
    · next hc =>
      obtain rfl := by simpa using h
      simp [scanPairMark, hc]
    · simp [failPast] at h

theorem scanUnicode_append {c : Char} (h : scanUnicode cs = .ok (c, rest)) :
    scanUnicode (cs ++ more) = .ok (c, rest ++ more) := by
  obtain ⟨⟨first, r₁⟩, h₁, h⟩ := bind_eq_ok_iff.1 h
  simp only [scanUnicode, scanHex_append more h₁, ok_bind]
  simp only at h
  split_ifs at h ⊢ with ht hl
  · simp [failAt] at h
  · obtain ⟨r₂, h₂, h⟩ := bind_eq_ok_iff.1 h
    obtain ⟨r₃, h₃, h⟩ := bind_eq_ok_iff.1 h
    obtain ⟨⟨second, r₄⟩, h₄, h⟩ := bind_eq_ok_iff.1 h
    simp only [scanPairMark_append more h₂, scanPairMark_append more h₃, scanHex_append more h₄,
      ok_bind]
    simp only at h
    split_ifs at h ⊢ with hs
    · simpa [pure, Except.pure] using h
    · simp [failAt] at h
  · simpa [pure, Except.pure] using h

theorem scanEscape_append {c : Char} (h : scanEscape cs = .ok (c, rest)) :
    scanEscape (cs ++ more) = .ok (c, rest ++ more) := by
  unfold scanEscape at h
  split at h
  · simp [failAt] at h
  · split at h
    · next hc => simp [scanEscape, hc, scanUnicode_append more h]
    · next hc =>
      split at h
      · next d hd =>
        simp at h
        simp [scanEscape, hc, hd, h.1, h.2]
      · simp [failPast] at h

/-! ### Strings -/

theorem scanStringChar_append {c : Option Char} (h : scanStringChar cs = .ok (c, rest)) :
    scanStringChar (cs ++ more) = .ok (c, rest ++ more) := by
  unfold scanStringChar at h
  split at h
  · simp [failAt] at h
  · next d r =>
    simp only [scanStringChar, List.cons_append]
    split_ifs at h ⊢ with h1 h2 h3
    · simp_all
    · obtain ⟨⟨e, r'⟩, he, h⟩ := map_eq_ok_iff.1 h
      rw [scanEscape_append more he]
      simp_all
    · simp [failAt] at h
    · simp_all

theorem scanString_append {s : List Char} (h : scanString cs = .ok (s, rest)) :
    scanString (cs ++ more) = .ok (s, rest ++ more) := by
  fun_induction scanString cs generalizing s with
  | case1 => simp at h
  | case2 cs r hr =>
    rw [scanString_close (scanStringChar_append more hr)]
    simp_all
  | case3 cs c r hr _ ih =>
    obtain ⟨⟨t, r'⟩, ht, h⟩ := map_eq_ok_iff.1 h
    obtain ⟨rfl, rfl⟩ : c :: t = s ∧ r' = rest := by simpa using h
    rw [scanString_char (scanStringChar_append more hr), ih ht]
    rfl

theorem skipStringChar_append {b : Bool} (h : skipStringChar cs = .ok (b, rest)) :
    skipStringChar (cs ++ more) = .ok (b, rest ++ more) := by
  unfold skipStringChar at h
  split at h
  · simp [failAt] at h
  · next c r =>
    simp only [skipStringChar, List.cons_append]
    split_ifs at h ⊢ with h1 h2 h3
    · simp_all
    · split at h
      · simp [failAt] at h
      · next d r =>
        simp only [List.cons_append]
        split_ifs at h ⊢ with h4 h5
        · obtain ⟨⟨n, r'⟩, hn, h⟩ := map_eq_ok_iff.1 h
          rw [scanHex_append more hn]
          simp_all
        · simp_all
        · simp [failPast] at h
    · simp [failAt] at h
    · simp_all

theorem skipString_append (h : skipString cs = .ok rest) :
    skipString (cs ++ more) = .ok (rest ++ more) := by
  fun_induction skipString cs with
  | case1 => simp at h
  | case2 cs r hr =>
    rw [skipString_close (skipStringChar_append more hr)]
    simp_all
  | case3 cs r hr _ ih => rw [skipString_char (skipStringChar_append more hr), ih h]

/-! ### Numbers -/

/-- What leaves something unread had something to read. -/
theorem ne_nil_of_length_le (h : rest.length ≤ cs.length) (hr : rest ≠ []) : cs ≠ [] := by
  rintro rfl
  exact hr (by simpa using h)

theorem isEmpty_leadingDigits_append (hc : cs ≠ []) :
    (leadingDigits (cs ++ more)).isEmpty = (leadingDigits cs).isEmpty := by
  cases cs with
  | nil => exact absurd rfl hc
  | cons c cs => simp only [leadingDigits, List.cons_append, List.takeWhile_cons]; split <;> rfl

theorem leadingDigits_append (h : pastDigits cs ≠ []) :
    leadingDigits (cs ++ more) = leadingDigits cs := by
  induction cs with
  | nil => exact absurd rfl h
  | cons c cs ih =>
    simp only [leadingDigits, pastDigits, List.cons_append, List.takeWhile_cons,
      List.dropWhile_cons] at h ih ⊢
    split
    · next hc => rw [if_pos hc] at h; rw [List.map_cons, ih h, List.map_cons]
    · rfl

theorem pastDigits_append (h : pastDigits cs ≠ []) :
    pastDigits (cs ++ more) = pastDigits cs ++ more := by
  unfold pastDigits at h ⊢
  rw [List.dropWhile_append, if_neg (by simpa using h)]

theorem scanWhole_append {e : Cause} {ds : List Nat} (h : scanWhole e cs = .ok (ds, rest))
    (hr : rest ≠ []) : scanWhole e (cs ++ more) = .ok (ds, rest ++ more) := by
  unfold scanWhole at h
  split at h
  · simp [digitMissing, failPast] at h
  · next c r =>
    simp only [scanWhole, List.cons_append]
    split_ifs at h with hc hz hd
    · obtain ⟨rfl, rfl⟩ : [0] = ds ∧ r = rest := by simpa using h
      rw [if_pos hc, isEmpty_leadingDigits_append more hr, if_pos hz]
    · simp [failPast] at h
    · obtain ⟨rfl, rfl⟩ : leadingDigits (c :: r) = ds ∧ pastDigits r = rest := by simpa using h
      have hp : pastDigits (c :: r) = pastDigits r := by simp [pastDigits, hd]
      rw [if_neg hc, if_pos hd, ← List.cons_append, leadingDigits_append more (hp ▸ hr),
        pastDigits_append more hr]
    · simp [digitMissing, failPast] at h

theorem scanDigits_append {e : Cause} {ds : List Nat} (h : scanDigits e cs = .ok (ds, rest))
    (hr : rest ≠ []) : scanDigits e (cs ++ more) = .ok (ds, rest ++ more) := by
  have hc := ne_nil_of_length_le (scanDigits_length h) hr
  unfold scanDigits at h ⊢
  rw [isEmpty_leadingDigits_append more hc]
  split_ifs at h ⊢ with hd
  · simp [digitMissing, failPast] at h
  · obtain ⟨rfl, rfl⟩ : leadingDigits cs = ds ∧ pastDigits cs = rest := by simpa using h
    rw [leadingDigits_append more hr, pastDigits_append more hr]

theorem scanFraction_append {e : Cause} {ds : List Nat} (h : scanFraction e cs = .ok (ds, rest))
    (hr : rest ≠ []) : scanFraction e (cs ++ more) = .ok (ds, rest ++ more) := by
  unfold scanFraction at h
  split at h
  · simp_all
  · next c r =>
    simp only [scanFraction, List.cons_append]
    split_ifs at h ⊢ with hc
    · exact scanDigits_append more h hr
    · obtain ⟨rfl, rfl⟩ : [] = ds ∧ c :: r = rest := by simpa using h
      rfl

theorem scanSign_append (hr : (scanSign cs).2 ≠ []) :
    scanSign (cs ++ more) = ((scanSign cs).1, (scanSign cs).2 ++ more) := by
  cases cs with
  | nil => exact absurd rfl hr
  | cons c cs => simp only [scanSign, List.cons_append]; split_ifs <;> rfl

theorem scanExponent_append {e : Cause} {x : Option (Bool × List Nat)}
    (h : scanExponent e cs = .ok (x, rest)) (hr : rest ≠ []) :
    scanExponent e (cs ++ more) = .ok (x, rest ++ more) := by
  unfold scanExponent at h
  split at h
  · simp_all
  · next c r =>
    simp only [scanExponent, List.cons_append]
    split_ifs at h ⊢ with hc
    · obtain ⟨⟨negative, s⟩, hs⟩ : ∃ p, scanSign r = p := ⟨_, rfl⟩
      rw [hs] at h
      obtain ⟨⟨ds, r'⟩, hd, h⟩ := map_eq_ok_iff.1 h
      obtain ⟨rfl, rfl⟩ : some (negative, ds) = x ∧ r' = rest := by simpa using h
      have hne : (scanSign r).2 ≠ [] := by
        rw [hs]
        exact ne_nil_of_length_le (scanDigits_length hd) hr
      simp only [scanSign_append more hne, hs, scanDigits_append more hd hr, ok_map]
    · obtain ⟨rfl, rfl⟩ : none = x ∧ c :: r = rest := by simpa using h
      rfl

theorem scanUnsigned_append {e : Cause} {b : Bool} {n : Numeral}
    (h : scanUnsigned e b cs = .ok (n, rest)) (hr : rest ≠ []) :
    scanUnsigned e b (cs ++ more) = .ok (n, rest ++ more) := by
  obtain ⟨⟨whole, r₁⟩, h₁, h⟩ := bind_eq_ok_iff.1 h
  obtain ⟨⟨fraction, r₂⟩, h₂, h⟩ := bind_eq_ok_iff.1 h
  obtain ⟨⟨exponent, r₃⟩, h₃, h⟩ := bind_eq_ok_iff.1 h
  obtain ⟨rfl, rfl⟩ : ⟨b, whole, fraction, exponent⟩ = n ∧ r₃ = rest := by
    simpa [pure, Except.pure] using h
  have hr₂ := ne_nil_of_length_le (scanExponent_length h₃) hr
  have hr₁ := ne_nil_of_length_le (scanFraction_length h₂) hr₂
  simp only [scanUnsigned, scanWhole_append more h₁ hr₁, scanFraction_append more h₂ hr₂,
    scanExponent_append more h₃ hr, ok_bind]
  rfl

theorem scanNumber_append {e : Cause} {n : Numeral} (h : scanNumber e cs = .ok (n, rest))
    (hr : rest ≠ []) : scanNumber e (cs ++ more) = .ok (n, rest ++ more) := by
  unfold scanNumber at h
  split at h
  · simp [digitMissing, failPast] at h
  · simp only [scanNumber, List.cons_append]
    split_ifs at h ⊢ with hc
    · exact scanUnsigned_append more h hr
    · exact scanUnsigned_append more h hr

theorem readNumber_append {v : Number} (h : readNumber cs = .ok (v, rest)) (hr : rest ≠ []) :
    readNumber (cs ++ more) = .ok (v, rest ++ more) := by
  obtain ⟨⟨n, r⟩, hn, h⟩ := bind_eq_ok_iff.1 h
  simp only at h
  split at h
  · next w hw =>
    obtain ⟨rfl, rfl⟩ : w = v ∧ r = rest := by simpa [pure, Except.pure] using h
    simp only [readNumber, scanNumber_append more hn hr, ok_bind, hw]
    rfl
  · simp at h

end ShaperDash.Json
