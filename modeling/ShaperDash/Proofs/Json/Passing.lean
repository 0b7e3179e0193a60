import ShaperDash.Proofs.Json.Lexemes

/-!
# Passing over what is spelled

A value that nobody wants is passed over whatever it is and however deep, and nothing behind it is
touched.

* `Phrase.Passed` : what passing over a phrase leaves, with the brackets around it still open.
* `Spells.passed` : a phrase that is spelled is passed over, by induction on its spelling.
* `skipValue_spelled` : **a value of any kind is passed over**.
-/

namespace ShaperDash.Json

variable {cs rest : List Char}

/-! ### Keys -/

theorem takeColon_spelled {b : List Char} (hb : Blanks b) :
    takeColon (b ++ ':' :: rest) = .ok rest := by
  rw [takeColon, skipBlanks_mark hb (by decide)]
  rfl

theorem skipKey_spelled {us : Units} {b₁ b₂ : List Char} (hb₁ : Blanks b₁) (hk : SpellsText us cs)
    (hb₂ : Blanks b₂) (rest : List Char) :
    skipKey (b₁ ++ '"' :: (cs ++ '"' :: (b₂ ++ ':' :: rest))) = .ok rest := by
  rw [skipKey, skipBlanks_mark hb₁ (by decide)]
  simp only [↓reduceIte, skipString_spelled hk, takeColon_spelled hb₂]

/-! ### Brackets and commas -/

section

variable {b : Bracket} {o : List Bracket} {w w' : List Char} {c : Char}

theorem Bracket.closing_not_blank : isBlank b.closing = false := by
  cases b <;> decide

theorem skipOpen_empty (ho : ∀ r, skipScalar (c :: r) = .ok (.opened b r))
    (hc : isBlank c = false) (hw : Blanks w) (hw' : Blanks w') :
    skipOpen true o (w ++ c :: (w' ++ b.closing :: rest)) = skipOpen false o rest := by
  have ho' : skipScalar (skipBlanks (w ++ c :: (w' ++ b.closing :: rest))) =
      .ok (.opened b (w' ++ b.closing :: rest)) := by
    rw [skipBlanks_mark hw hc, ho]
  rw [skipOpen_opened ho', skipBlanks_mark hw' b.closing_not_blank]
  simp

theorem skipOpen_first (ho : ∀ r, skipScalar (c :: r) = .ok (.opened b r))
    (hc : isBlank c = false) (hw : Blanks w) (hw' : Blanks w') {d : Char} {r : List Char}
    (hd : isBlank d = false) (hne : d ≠ b.closing) (hr : enterElement b (d :: cs) = .ok r) :
    skipOpen true o (w ++ c :: (w' ++ d :: cs)) = skipOpen true (b :: o) r := by
  have ho' : skipScalar (skipBlanks (w ++ c :: (w' ++ d :: cs))) =
      .ok (.opened b (w' ++ d :: cs)) := by
    rw [skipBlanks_mark hw hc, ho]
  rw [skipOpen_opened ho', skipBlanks_mark hw' hd]
  simp only [if_neg hne, hr]

theorem skipOpen_closing (hw : Blanks w) :
    skipOpen false (b :: o) (w ++ b.closing :: rest) = skipOpen false o rest := by
  rw [skipOpen_between, skipBlanks_mark hw b.closing_not_blank]
  simp

theorem skipOpen_comma (hw : Blanks w) {r : List Char} (hr : enterElement b cs = .ok r) :
    skipOpen false (b :: o) (w ++ ',' :: cs) = skipOpen true (b :: o) r := by
  have hc : ',' ≠ b.closing := by cases b <;> decide
  rw [skipOpen_between, skipBlanks_mark hw (by decide)]
  simp only [if_neg hc, ↓reduceIte, hr]

end

/-! ### Phrases -/

/-- What passing over a phrase leaves.  A value is passed over with the blanks before it; elements
and members are passed over with the brackets that are still to come, or are about to come. -/
def Phrase.Passed : Phrase → List Char → Prop
  | .value _, cs => ∀ o w rest, Blanks w → Delimited rest →
      skipOpen true o (w ++ (cs ++ rest)) = skipOpen false o rest
  | .elements true _, cs => ∀ o w rest, Blanks w →
      skipOpen true o (w ++ '[' :: (cs ++ ']' :: rest)) = skipOpen false o rest
  | .elements false _, cs => ∀ o rest,
      skipOpen false (.square :: o) (cs ++ ']' :: rest) = skipOpen false o rest
  | .members true _, cs => ∀ o w rest, Blanks w →
      skipOpen true o (w ++ '{' :: (cs ++ '}' :: rest)) = skipOpen false o rest
  | .members false _, cs => ∀ o rest,
      skipOpen false (.curly :: o) (cs ++ '}' :: rest) = skipOpen false o rest

theorem passed_scalar {v : Value} (hs : Spells (.value v) cs)
    (h : ∀ rest, Delimited rest → skipScalar (cs ++ rest) = .ok (.scalar rest)) :
    (Phrase.value v).Passed cs := by
  intro o b rest hb hr
  exact skipOpen_scalar (by rw [hs.skipBlanks hb, h rest hr])

theorem skipScalar_number {n : Numeral} (h : SpellsNumeral n cs) (hr : Delimited rest) :
    skipScalar (cs ++ rest) = .ok (.scalar rest) := by
  have hs := scanNumber_spelled (e := .invalidNumber) h hr
  obtain ⟨c, r, rfl, hc⟩ := h.opens
  obtain ⟨hn, ht, hf, hq, -⟩ := hc.ne
  have hc : c = '-' ∨ isDigit c = true := hc
  rw [List.cons_append] at hs ⊢
  simp only [skipScalar, if_neg hn, if_neg ht, if_neg hf, if_neg hq, if_pos hc, hs, ok_map]

theorem passed_noElement {first : Bool} {b : List Char} (hb : Blanks b) :
    (Phrase.elements first []).Passed b := by
  cases first with
  | true =>
    intro o w rest hw
    exact skipOpen_empty (b := .square) (fun _ => rfl) (by decide) hw hb
  | false =>
    intro o rest
    exact skipOpen_closing (b := .square) hb

theorem passed_noMember {first : Bool} {b : List Char} (hb : Blanks b) :
    (Phrase.members first []).Passed b := by
  cases first with
  | true =>
    intro o w rest hw
    exact skipOpen_empty (b := .curly) (fun _ => rfl) (by decide) hw hb
  | false =>
    intro o rest
    exact skipOpen_closing (b := .curly) hb

theorem passed_element {first : Bool} {v : Value} {vs : List Value} {s b ds : List Char}
    (hs : Separator first s) (hb : Blanks b) (hv : Spells (.value v) cs)
    (hvs : Spells (.elements false vs) ds) (h : (Phrase.value v).Passed cs)
    (ih : (Phrase.elements false vs).Passed ds) :
    (Phrase.elements first (v :: vs)).Passed (s ++ (b ++ (cs ++ ds))) := by
  cases hs with
  | first =>
    intro o w rest hw
    obtain ⟨c, r, rfl, hc⟩ := hv.opens
    have he : enterElement .square (c :: (r ++ (ds ++ ']' :: rest))) =
        .ok ([] ++ (c :: r ++ (ds ++ ']' :: rest))) := rfl
    have := skipOpen_first (b := .square) (o := o) (c := '[') (fun _ => rfl) (by decide) hw hb hc.1
      hc.2.1 he
    rw [h (.square :: o) [] _ blanks_nil (hvs.delimited_elements rest), ih o rest] at this
    simpa using this
  | comma hb' =>
    intro o rest
    have he : enterElement .square (b ++ (cs ++ (ds ++ ']' :: rest))) = .ok _ := rfl
    have := skipOpen_comma (o := o) hb' he
    rw [h (.square :: o) b _ hb (hvs.delimited_elements rest), ih o rest] at this
    simpa using this

theorem passed_member {first : Bool} {us : Units} {v : Value} {ms : List (Units × Value)}
    {s b₁ ks b₂ b₃ ds : List Char} (hs : Separator first s) (hb₁ : Blanks b₁)
    (hk : SpellsText us ks) (hb₂ : Blanks b₂) (hb₃ : Blanks b₃)
    (hms : Spells (.members false ms) ds) (h : (Phrase.value v).Passed cs)
    (ih : (Phrase.members false ms).Passed ds) :
    (Phrase.members first ((us, v) :: ms)).Passed
      (s ++ (b₁ ++ '"' :: (ks ++ '"' :: (b₂ ++ ':' :: (b₃ ++ (cs ++ ds)))))) := by
  cases hs with
  | first =>
    intro o w rest hw
    have he : enterElement .curly
        ('"' :: (ks ++ '"' :: (b₂ ++ ':' :: (b₃ ++ (cs ++ (ds ++ '}' :: rest)))))) = .ok _ :=
      skipKey_spelled blanks_nil hk hb₂ _
    have := skipOpen_first (b := .curly) (o := o) (c := '{') (fun _ => rfl) (by decide) hw hb₁
      (by decide) (by decide) he
    rw [h (.curly :: o) b₃ _ hb₃ (hms.delimited_members rest), ih o rest] at this
    simpa using this
  | comma hb' =>
    intro o rest
    have he := skipKey_spelled hb₁ hk hb₂ (b₃ ++ (cs ++ (ds ++ '}' :: rest)))
    have := skipOpen_comma (b := .curly) (o := o) hb' he
    rw [h (.curly :: o) b₃ _ hb₃ (hms.delimited_members rest), ih o rest] at this
    simpa using this

theorem Spells.passed {p : Phrase} (h : Spells p cs) : p.Passed cs := by
  induction h with
  | null => exact passed_scalar .null fun _ _ => rfl
  | yes => exact passed_scalar .yes fun _ _ => rfl
  | no => exact passed_scalar .no fun _ _ => rfl
  | number hn => exact passed_scalar (.number hn) fun _ hr => skipScalar_number hn hr
  | text ht =>
    refine passed_scalar (.text ht) fun rest _ => ?_
    simp [skipScalar, skipString_spelled ht]
  | list _ ih =>
    intro o w rest hw _
    simpa using ih o w rest hw
  | object _ ih =>
    intro o w rest hw _
    simpa using ih o w rest hw
  | noElement hb => exact passed_noElement hb
  | element hs hb hv hvs ih ihs => exact passed_element hs hb hv hvs ih ihs
  | noMember hb => exact passed_noMember hb
  | member hs hb₁ hk hb₂ hb₃ _ hms ih ihs => exact passed_member hs hb₁ hk hb₂ hb₃ hms ih ihs

/-- **A value of any kind is passed over**, however deep it is and whether or not its strings are
strings of characters. -/
theorem skipValue_spelled {v : Value} (h : Spells (.value v) cs) {b : List Char} (hb : Blanks b)
    (hr : Delimited rest) : skipValue (b ++ (cs ++ rest)) = .ok rest := by
  rw [skipValue, h.passed [] b rest hb hr, skipOpen_nil]

end ShaperDash.Json
