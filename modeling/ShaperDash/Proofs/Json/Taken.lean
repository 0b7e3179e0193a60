import Mathlib.Data.List.TakeWhile
import ShaperDash.Proofs.Json.Passing

/-!
# What scanners take is spelled

The other half of the grammar: whatever a scanner takes off a text is a text of the grammar, so that
nothing outside the grammar is ever taken.

* `scanNumber_taken`, `scanString_taken`, `skipString_taken` : numbers and strings.
* `Closes` : what a list of open brackets demands of the text.
* `skipOpen_taken` : passing over a value closes the brackets that are open, by induction on the
  turns of the loop.
* `skipValue_taken` : **what is passed over is a value**.
-/

namespace ShaperDash.Json

variable {cs rest : List Char}

/-! ### Blanks and words -/

theorem exists_blanks (cs : List Char) : ∃ w, Blanks w ∧ cs = w ++ skipBlanks cs :=
  ⟨cs.takeWhile isBlank, fun _ hc => List.mem_takeWhile_imp hc,
    (List.takeWhile_append_dropWhile).symm⟩

/-- The blanks before what `skipBlanks` leaves. -/
theorem exists_blanks_of_eq {ds : List Char} (h : skipBlanks cs = ds) :
    ∃ w, Blanks w ∧ cs = w ++ ds := by
  obtain ⟨w, hw, heq⟩ := exists_blanks cs
  exact ⟨w, hw, h ▸ heq⟩

theorem Blanks.append {v w : List Char} (hv : Blanks v) (hw : Blanks w) : Blanks (v ++ w) :=
  List.forall_mem_append.2 ⟨hv, hw⟩

theorem scanWord_taken {word : List Char} (h : scanWord word cs = .ok rest) :
    cs = word ++ rest := by
  induction word generalizing cs with
  | nil => simpa [scanWord] using h
  | cons w word ih =>
    cases cs with
    | nil => simp [scanWord, failAt] at h
    | cons c cs =>
      simp only [scanWord] at h
      split_ifs at h with hc
      · rw [hc, ih h, List.cons_append]
      · simp [failPast] at h

/-! ### Numbers -/

section

variable {e : Cause}

theorem isDigitRun_takeWhile (h : leadingDigits cs ≠ []) : IsDigitRun (cs.takeWhile isDigit) :=
  ⟨fun hnil => h (by simp [leadingDigits, hnil]), fun _ hc => List.mem_takeWhile_imp hc⟩

theorem scanDigits_taken {ds : List Nat} (h : scanDigits e cs = .ok (ds, rest)) :
    ∃ xs, IsDigitRun xs ∧ ds = digitValues xs ∧ cs = xs ++ rest := by
  unfold scanDigits at h
  split_ifs at h with he
  · simp [digitMissing, failPast] at h
  · obtain ⟨rfl, rfl⟩ : leadingDigits cs = ds ∧ pastDigits cs = rest := by simpa using h
    exact ⟨cs.takeWhile isDigit, isDigitRun_takeWhile (by simpa using he), rfl,
      (List.takeWhile_append_dropWhile).symm⟩

theorem scanWhole_taken {ds : List Nat} (h : scanWhole e cs = .ok (ds, rest)) :
    ∃ xs, SpellsWhole ds xs ∧ cs = xs ++ rest := by
  unfold scanWhole at h
  split at h
  · simp [digitMissing, failPast] at h
  · next c r =>
    split_ifs at h with hz hmore hd
    · obtain ⟨rfl, rfl⟩ : [0] = ds ∧ r = rest := by simpa using h
      exact ⟨['0'], .zero, by rw [hz]; rfl⟩
    · simp [failPast] at h
    · obtain ⟨rfl, rfl⟩ : leadingDigits (c :: r) = ds ∧ pastDigits r = rest := by simpa using h
      have htake : (c :: r).takeWhile isDigit = c :: r.takeWhile isDigit :=
        List.takeWhile_cons_of_pos hd
      have hdigits : IsDigitRun (c :: r.takeWhile isDigit) :=
        htake ▸ isDigitRun_takeWhile (by simp [leadingDigits, htake])
      refine ⟨c :: r.takeWhile isDigit, ?_, ?_⟩
      · rw [leadingDigits, htake]
        exact .digits hz hdigits
      · rw [List.cons_append, pastDigits, List.takeWhile_append_dropWhile]
    · simp [digitMissing, failPast] at h

theorem scanFraction_taken {ds : List Nat} (h : scanFraction e cs = .ok (ds, rest)) :
    ∃ xs, SpellsFraction ds xs ∧ cs = xs ++ rest := by
  unfold scanFraction at h
  split at h
  · obtain ⟨rfl, rfl⟩ : [] = ds ∧ [] = rest := by simpa using h
    exact ⟨[], .none, rfl⟩
  · split_ifs at h with hp
    · obtain ⟨xs, hxs, rfl, rfl⟩ := scanDigits_taken h
      exact ⟨'.' :: xs, .digits hxs, by rw [hp]; rfl⟩
    · obtain ⟨rfl, rfl⟩ : [] = ds ∧ _ = rest := by simpa using h
      exact ⟨[], .none, rfl⟩

theorem scanSign_taken (cs : List Char) :
    ∃ sign, SpellsSign (scanSign cs).1 sign ∧ cs = sign ++ (scanSign cs).2 := by
  unfold scanSign
  split
  · exact ⟨[], .none, rfl⟩
  · split_ifs with hm hp
    · exact ⟨['-'], .minus, by rw [hm]; rfl⟩
    · exact ⟨['+'], .plus, by rw [hp]; rfl⟩
    · exact ⟨[], .none, rfl⟩

theorem scanExponent_taken {x : Option (Bool × List Nat)}
    (h : scanExponent e cs = .ok (x, rest)) : ∃ xs, SpellsExponent x xs ∧ cs = xs ++ rest := by
  unfold scanExponent at h
  split at h
  · obtain ⟨rfl, rfl⟩ : none = x ∧ [] = rest := by simpa using h
    exact ⟨[], .none, rfl⟩
  · next c r =>
    split_ifs at h with he
    · obtain ⟨sign, hsign, hr⟩ := scanSign_taken r
      generalize scanSign r = p at h hsign hr
      obtain ⟨negative, r'⟩ := p
      obtain ⟨⟨ds, r''⟩, hds, heq⟩ := map_eq_ok_iff.1 h
      obtain ⟨rfl, rfl⟩ : some (negative, ds) = x ∧ r'' = rest := by simpa using heq
      obtain ⟨xs, hxs, rfl, rfl⟩ := scanDigits_taken hds
      exact ⟨c :: (sign ++ xs), .digits he hsign hxs, by simp [hr]⟩
    · obtain ⟨rfl, rfl⟩ : none = x ∧ c :: r = rest := by simpa using h
      exact ⟨[], .none, rfl⟩

theorem scanUnsigned_taken {negative : Bool} {n : Numeral}
    (h : scanUnsigned e negative cs = .ok (n, rest)) :
    ∃ cw cf cx, n.negative = negative ∧ SpellsWhole n.whole cw ∧ SpellsFraction n.fraction cf ∧
      SpellsExponent n.exponent cx ∧ cs = cw ++ (cf ++ cx) ++ rest := by
  obtain ⟨⟨w, r⟩, hw, h⟩ := bind_eq_ok_iff.1 h
  obtain ⟨⟨f, r'⟩, hf, h⟩ := bind_eq_ok_iff.1 h
  obtain ⟨⟨x, r''⟩, hx, h⟩ := bind_eq_ok_iff.1 h
  obtain ⟨rfl, rfl⟩ : ⟨negative, w, f, x⟩ = n ∧ r'' = rest := by simpa [pure, Except.pure] using h
  obtain ⟨cw, hcw, rfl⟩ := scanWhole_taken hw
  obtain ⟨cf, hcf, rfl⟩ := scanFraction_taken hf
  obtain ⟨cx, hcx, rfl⟩ := scanExponent_taken hx
  exact ⟨cw, cf, cx, rfl, hcw, hcf, hcx, by simp⟩

theorem scanNumber_taken {n : Numeral} (h : scanNumber e cs = .ok (n, rest)) :
    ∃ ds, SpellsNumeral n ds ∧ cs = ds ++ rest := by
  unfold scanNumber at h
  split at h
  · simp [digitMissing, failPast] at h
  · next c r =>
    split_ifs at h with hm
    · obtain ⟨cw, cf, cx, hneg, hw, hf, hx, rfl⟩ := scanUnsigned_taken h
      refine ⟨'-' :: (cw ++ (cf ++ cx)), ?_, by rw [hm]; rfl⟩
      have := SpellsNumeral.negative hw hf hx
      rwa [← hneg] at this
    · obtain ⟨cw, cf, cx, hneg, hw, hf, hx, heq⟩ := scanUnsigned_taken h
      refine ⟨cw ++ (cf ++ cx), ?_, heq⟩
      have := SpellsNumeral.positive hw hf hx
      rwa [← hneg] at this

end

/-! ### Strings -/

/-- The characters can stand in front of any text of a string. -/
def Extends (lead : List Char) : Prop :=
  ∀ us ds, SpellsText us ds → ∃ us', SpellsText us' (lead ++ ds)

theorem Extends.append {lead more : List Char} (hl : Extends lead) (hm : Extends more) :
    Extends (lead ++ more) := by
  intro us ds h
  obtain ⟨us', h⟩ := hm us ds h
  rw [List.append_assoc]
  exact hl us' _ h

theorem extends_plain {c : Char} (hs : ¬ c < ' ') (hq : c ≠ '"') (hb : c ≠ '\\') : Extends [c] :=
  fun _ _ h => ⟨_, .plain (Char.not_lt.1 hs) hq hb h⟩

theorem extends_letter {c d : Char} (h : letterEscape c = some d) : Extends ['\\', c] :=
  fun _ _ ht => ⟨_, .letter h ht⟩

theorem scanHex_taken {n : Nat} (h : scanHex cs = .ok (n, rest)) :
    ∃ hex, Extends ('\\' :: 'u' :: hex) ∧ cs = hex ++ rest := by
  unfold scanHex at h
  split at h
  · next r hr =>
    obtain rfl : r = (n, rest) := by simpa using h
    unfold hexQuad at hr
    split at hr
    · next a b c d r =>
      simp only [Option.bind_eq_bind, Option.bind_eq_some_iff, Option.pure_def,
        Option.some.injEq, Prod.mk.injEq] at hr
      obtain ⟨i, ha, j, hb, k, hc, l, hd, -, rfl⟩ := hr
      exact ⟨[a, b, c, d], fun _ _ ht => ⟨_, .unit ha hb hc hd ht⟩, rfl⟩
    · simp at hr
  · split_ifs at h
    simp [failAt] at h

theorem scanPairMark_taken {mark : Char} (h : scanPairMark mark cs = .ok rest) :
    cs = mark :: rest := by
  unfold scanPairMark at h
  split at h
  · simp [failAt] at h
  · split_ifs at h with hc
    · obtain rfl : _ = rest := by simpa using h
      rw [hc]
    · simp [failPast] at h

theorem scanUnicode_taken {d : Char} (h : scanUnicode cs = .ok (d, rest)) :
    ∃ more, Extends ('\\' :: 'u' :: more) ∧ cs = more ++ rest := by
  obtain ⟨⟨u, r⟩, hu, hpair⟩ := bind_eq_ok_iff.1 h
  obtain ⟨hex, hhex, rfl⟩ := scanHex_taken hu
  dsimp only at hpair
  split_ifs at hpair with ht hl
  · simp [failAt] at hpair
  · -- a second escape follows, which completes the pair
    obtain ⟨r₁, h₁, hmark⟩ := bind_eq_ok_iff.1 hpair
    obtain ⟨r₂, h₂, hsecond⟩ := bind_eq_ok_iff.1 hmark
    obtain ⟨⟨v, r₃⟩, hv, hend⟩ := bind_eq_ok_iff.1 hsecond
    obtain rfl := scanPairMark_taken h₁
    obtain rfl := scanPairMark_taken h₂
    obtain ⟨hex', hhex', rfl⟩ := scanHex_taken hv
    dsimp only at hend
    split_ifs at hend with ht'
    · obtain ⟨-, rfl⟩ : _ ∧ r₃ = rest := by simpa [pure, Except.pure] using hend
      exact ⟨hex ++ '\\' :: 'u' :: hex', by simpa using hhex.append hhex', by simp⟩
    · simp [failAt] at hend
  · obtain ⟨-, rfl⟩ : _ ∧ r = rest := by simpa [pure, Except.pure] using hpair
    exact ⟨hex, hhex, rfl⟩

theorem scanEscape_taken {d : Char} (h : scanEscape cs = .ok (d, rest)) :
    ∃ more, Extends ('\\' :: more) ∧ cs = more ++ rest := by
  unfold scanEscape at h
  split at h
  · simp [failAt] at h
  · next c r =>
    split_ifs at h with hu
    · obtain ⟨more, hmore, rfl⟩ := scanUnicode_taken h
      exact ⟨'u' :: more, hmore, by rw [hu]; rfl⟩
    · split at h
      · next d hd =>
        obtain ⟨-, rfl⟩ : _ ∧ r = rest := by simpa using h
        exact ⟨[c], extends_letter hd, rfl⟩
      · simp [failPast] at h

theorem scanStringChar_taken {d : Option Char} (h : scanStringChar cs = .ok (d, rest)) :
    if d.isSome then ∃ lead, Extends lead ∧ cs = lead ++ rest else cs = '"' :: rest := by
  unfold scanStringChar at h
  split at h
  · simp [failAt] at h
  · next c r =>
    split_ifs at h with hq hb hs
    · obtain ⟨rfl, rfl⟩ : none = d ∧ r = rest := by simpa using h
      simp [hq]
    · obtain ⟨⟨c', r'⟩, hc', heq⟩ := map_eq_ok_iff.1 h
      obtain ⟨rfl, rfl⟩ : some c' = d ∧ r' = rest := by simpa using heq
      obtain ⟨more, hmore, rfl⟩ := scanEscape_taken hc'
      exact ⟨'\\' :: more, hmore, by rw [hb]; rfl⟩
    · simp [failAt] at h
    · obtain ⟨rfl, rfl⟩ : some c = d ∧ r = rest := by simpa using h
      exact ⟨[c], extends_plain hs hq hb, rfl⟩

theorem scanString_taken {s : List Char} (h : scanString cs = .ok (s, rest)) :
    ∃ us ds, SpellsText us ds ∧ cs = ds ++ '"' :: rest := by
  fun_induction scanString cs generalizing s with
  | case1 => simp at h
  | case2 cs r hr =>
    obtain ⟨-, rfl⟩ : _ ∧ r = rest := by simpa using h
    have := scanStringChar_taken hr
    exact ⟨[], [], .nil, by simpa using this⟩
  | case3 cs c r hr _ ih =>
    obtain ⟨⟨tail, rest'⟩, hrest, heq⟩ := map_eq_ok_iff.1 h
    obtain ⟨-, rfl⟩ : _ ∧ rest' = rest := by simpa using heq
    obtain ⟨us, ds, hds, rfl⟩ := ih hrest
    obtain ⟨lead, hlead, rfl⟩ : ∃ lead, Extends lead ∧ _ := by simpa using scanStringChar_taken hr
    obtain ⟨us', hus'⟩ := hlead us ds hds
    exact ⟨us', lead ++ ds, hus', by simp⟩

theorem skipStringChar_taken {more : Bool} (h : skipStringChar cs = .ok (more, rest)) :
    if more then ∃ lead, Extends lead ∧ cs = lead ++ rest else cs = '"' :: rest := by
  unfold skipStringChar at h
  split at h
  · simp [failAt] at h
  · next c r =>
    split_ifs at h with hq hb hs
    · obtain ⟨rfl, rfl⟩ : false = more ∧ r = rest := by simpa using h
      simp [hq]
    · split at h
      · simp [failAt] at h
      · next d r =>
        split_ifs at h with hu hl
        · obtain ⟨⟨n, r'⟩, hn, heq⟩ := map_eq_ok_iff.1 h
          obtain ⟨rfl, rfl⟩ : true = more ∧ r' = rest := by simpa using heq
          obtain ⟨hex, hhex, rfl⟩ := scanHex_taken hn
          exact ⟨'\\' :: 'u' :: hex, hhex, by rw [hb, hu]; rfl⟩
        · obtain ⟨rfl, rfl⟩ : true = more ∧ r = rest := by simpa using h
          obtain ⟨d', hd'⟩ := Option.isSome_iff_exists.1 hl
          exact ⟨['\\', d], extends_letter hd', by rw [hb]; rfl⟩
        · simp [failPast] at h
    · simp [failAt] at h
    · obtain ⟨rfl, rfl⟩ : true = more ∧ r = rest := by simpa using h
      exact ⟨[c], extends_plain hs hq hb, rfl⟩

theorem skipString_taken (h : skipString cs = .ok rest) :
    ∃ us ds, SpellsText us ds ∧ cs = ds ++ '"' :: rest := by
  fun_induction skipString cs with
  | case1 => simp at h
  | case2 cs r hr =>
    obtain rfl : r = rest := by simpa using h
    have := skipStringChar_taken hr
    exact ⟨[], [], .nil, by simpa using this⟩
  | case3 cs r hr _ ih =>
    obtain ⟨us, ds, hds, rfl⟩ := ih h
    obtain ⟨lead, hlead, rfl⟩ : ∃ lead, Extends lead ∧ _ := by simpa using skipStringChar_taken hr
    obtain ⟨us', hus'⟩ := hlead us ds hds
    exact ⟨us', lead ++ ds, hus', by simp⟩

/-! ### Punctuation -/

theorem takeColon_taken (h : takeColon cs = .ok rest) : ∃ w, Blanks w ∧ cs = w ++ ':' :: rest := by
  unfold takeColon at h
  split at h
  · simp [failPast] at h
  · next c r hr =>
    split_ifs at h with hc
    · obtain rfl : r = rest := by simpa using h
      exact exists_blanks_of_eq (hc ▸ hr)
    · simp [failPast] at h

theorem skipKey_taken (h : skipKey cs = .ok rest) :
    ∃ w us ks w', Blanks w ∧ SpellsText us ks ∧ Blanks w' ∧
      cs = w ++ '"' :: (ks ++ '"' :: (w' ++ ':' :: rest)) := by
  unfold skipKey at h
  split at h
  · simp [failPast] at h
  · next c r hr =>
    split_ifs at h with hc
    · split at h
      · simp at h
      · next r' hr' =>
        obtain ⟨w, hw, rfl⟩ := exists_blanks_of_eq (hc ▸ hr)
        obtain ⟨us, ks, hks, rfl⟩ := skipString_taken hr'
        obtain ⟨w', hw', rfl⟩ := takeColon_taken h
        exact ⟨w, us, ks, w', hw, hks, hw', rfl⟩
    · simp [failPast] at h

/-! ### Scalars -/

def Bracket.opening : Bracket → Char
  | .square => '['
  | .curly => '{'

/-- The scalar or the opening bracket that was found stands in front of the rest. -/
def Skipped.StandsAt (cs : List Char) : Skipped → Prop
  | .scalar rest => ∃ v ds, Spells (.value v) ds ∧ cs = ds ++ rest
  | .opened b rest => cs = b.opening :: rest

theorem skipScalar_taken {s : Skipped} (h : skipScalar cs = .ok s) : s.StandsAt cs := by
  unfold skipScalar at h
  split at h
  · simp [failPast] at h
  · next c r =>
    split_ifs at h with hn ht hf hq hd hl ho
    · obtain ⟨r', hr', rfl⟩ := map_eq_ok_iff.1 h
      exact ⟨_, _, .null, by rw [hn, scanWord_taken hr']; rfl⟩
    · obtain ⟨r', hr', rfl⟩ := map_eq_ok_iff.1 h
      exact ⟨_, _, .yes, by rw [ht, scanWord_taken hr']; rfl⟩
    · obtain ⟨r', hr', rfl⟩ := map_eq_ok_iff.1 h
      exact ⟨_, _, .no, by rw [hf, scanWord_taken hr']; rfl⟩
    · obtain ⟨r', hr', rfl⟩ := map_eq_ok_iff.1 h
      obtain ⟨us, ds, hds, rfl⟩ := skipString_taken hr'
      exact ⟨_, _, .text hds, by rw [hq]; simp⟩
    · obtain ⟨⟨n, r'⟩, hr', rfl⟩ := map_eq_ok_iff.1 h
      obtain ⟨ds, hds, heq⟩ := scanNumber_taken hr'
      exact ⟨_, _, .number hds, heq⟩
    · obtain rfl : Skipped.opened .square r = s := by simpa using h
      exact congrArg (· :: r) hl
    · obtain rfl : Skipped.opened .curly r = s := by simpa using h
      exact congrArg (· :: r) ho
    · simp [failPast] at h

/-! ### Values with open brackets -/

/-- The text is what stands in a bracket from its opening on (`first`) or from the end of an element
on, up to its closing. -/
def Bracket.Content (b : Bracket) (first : Bool) (cs : List Char) : Prop :=
  match b with
  | .square => ∃ vs, Spells (.elements first vs) cs
  | .curly => ∃ ms, Spells (.members first ms) cs

/-- The text closes the brackets, the innermost first, and leaves the rest. -/
inductive Closes : List Bracket → List Char → List Char → Prop
  | nil {cs : List Char} : Closes [] cs cs
  | close {b : Bracket} {o : List Bracket} {ds cs rest : List Char} :
      b.Content false ds → Closes o cs rest → Closes (b :: o) (ds ++ b.closing :: cs) rest

section

variable {b : Bracket} {first : Bool} {w : List Char}

theorem Bracket.content_blanks (hw : Blanks w) : b.Content first w := by
  cases b with
  | square => exact ⟨[], .noElement hw⟩
  | curly => exact ⟨[], .noMember hw⟩

/-- A bracket with its content is a value. -/
theorem Bracket.Content.value {ds : List Char} (h : b.Content true ds) :
    ∃ v, Spells (.value v) (b.opening :: (ds ++ [b.closing])) := by
  cases b with
  | square =>
    obtain ⟨vs, hvs⟩ := h
    exact ⟨.list vs, .list hvs⟩
  | curly =>
    obtain ⟨ms, hms⟩ := h
    exact ⟨.object ms, .object hms⟩

/-- A new element in front of what is left of the content of a bracket. -/
theorem Bracket.Content.enter {s w' ds es more : List Char} {v : Value} (hs : Separator first s)
    (hw : Blanks w) (he : enterElement b cs = .ok (w' ++ (ds ++ more))) (hw' : Blanks w')
    (hv : Spells (.value v) ds) (hes : b.Content false es) :
    ∃ ds', b.Content first (s ++ (w ++ ds')) ∧ ∀ tail, more = es ++ tail → cs = ds' ++ tail := by
  cases b with
  | square =>
    obtain ⟨vs, hvs⟩ := hes
    obtain rfl : cs = w' ++ (ds ++ more) := by simpa [enterElement] using he
    refine ⟨w' ++ (ds ++ es), ⟨v :: vs, ?_⟩, fun tail ht => by simp [ht]⟩
    have := Spells.element hs (hw.append hw') hv hvs
    rwa [List.append_assoc] at this
  | curly =>
    obtain ⟨ms, hms⟩ := hes
    obtain ⟨w₁, us, ks, w₂, hw₁, hks, hw₂, rfl⟩ := skipKey_taken he
    refine ⟨w₁ ++ '"' :: (ks ++ '"' :: (w₂ ++ ':' :: (w' ++ (ds ++ es)))), ⟨(us, v) :: ms, ?_⟩,
      fun tail ht => by simp [ht]⟩
    have := Spells.member hs (hw.append hw₁) hks hw₂ hw' hv hms
    rwa [List.append_assoc] at this

end

/-- A value with blanks before it stands in front of the rest. -/
def ValueThen (cs rest : List Char) : Prop :=
  ∃ w v ds, Blanks w ∧ Spells (.value v) ds ∧ cs = w ++ (ds ++ rest)

/-- A value and then what closes the brackets; or only what closes them, if a value has just
ended. -/
def Finishes : Bool → List Bracket → List Char → List Char → Prop
  | true, o, cs, rest => ∃ more, ValueThen cs more ∧ Closes o more rest
  | false, o, cs, rest => Closes o cs rest

/-- The innermost of the brackets that a new element closes is closed by that element and what comes
behind it. -/
theorem Finishes.enter {b : Bracket} {o : List Bracket} {first : Bool} {s w r : List Char}
    (h : Finishes true (b :: o) r rest) (hs : Separator first s) (hw : Blanks w)
    (he : enterElement b cs = .ok r) :
    ∃ ds more, b.Content first ds ∧ s ++ (w ++ cs) = ds ++ b.closing :: more ∧
      Closes o more rest := by
  obtain ⟨more, ⟨w', v, ds, hw', hv, rfl⟩, hmore⟩ := h
  cases hmore with
  | @close _ _ es more _ hes hmore =>
    obtain ⟨ds', hds', htail⟩ := Bracket.Content.enter hs hw he hw' hv hes
    refine ⟨s ++ (w ++ ds'), more, hds', ?_, hmore⟩
    simp [htail _ rfl]

/-- Passing over a value closes the brackets that are open. -/
theorem skipOpen_taken {inside : Bool} {o : List Bracket} (h : skipOpen inside o cs = .ok rest) :
    Finishes inside o cs rest := by
  fun_induction skipOpen inside o cs with
  | case1 => simp at h
  | case2 o cs r hr _ _ _ ih =>
    obtain ⟨w, hw, hcs⟩ := exists_blanks cs
    obtain ⟨v, ds, hds, heq⟩ := skipScalar_taken hr
    exact ⟨r, ⟨w, v, ds, hw, hds, hcs.trans (congrArg _ heq)⟩, ih h⟩
  | case3 => simp [failPast] at h
  | case4 o cs b r hr _ _ _ more hmore _ _ ih =>
    -- the bracket is closed at once
    obtain ⟨w, hw, hcs⟩ := exists_blanks cs
    obtain ⟨w', hw', rfl⟩ := exists_blanks_of_eq hmore
    have hempty : b.Content true w' := Bracket.content_blanks hw'
    obtain ⟨v, hv⟩ := hempty.value
    refine ⟨more, ⟨w, v, _, hw, hv, ?_⟩, ih h⟩
    rw [hcs, skipScalar_taken hr]
    simp
  | case5 => simp at h
  | case6 o cs b r hr _ _ _ c more hmore _ hc r' he _ _ ih =>
    obtain ⟨w, hw, hcs⟩ := exists_blanks cs
    obtain ⟨w', hw', rfl⟩ := exists_blanks_of_eq hmore
    obtain ⟨ds, more', hds, heq, hclose⟩ := (ih h).enter .first hw' he
    obtain ⟨v, hv⟩ := hds.value
    refine ⟨more', ⟨w, v, _, hw, hv, ?_⟩, hclose⟩
    rw [hcs, skipScalar_taken hr]
    simpa using heq
  | case7 inside cs hi =>
    obtain rfl : inside = false := by simpa using hi
    obtain rfl : cs = rest := by simpa using h
    exact Closes.nil
  | case8 => simp [failPast] at h
  | case9 inside cs hi b outer more hmore _ _ ih =>
    obtain rfl : inside = false := by simpa using hi
    obtain ⟨w, hw, rfl⟩ := exists_blanks_of_eq hmore
    exact Closes.close (Bracket.content_blanks hw) (ih h)
  | case10 => simp at h
  | case11 inside cs hi b outer more r' he _ hmore _ _ _ _ ih =>
    obtain rfl : inside = false := by simpa using hi
    obtain ⟨w, hw, rfl⟩ := exists_blanks_of_eq hmore
    obtain ⟨ds, more', hds, heq, hclose⟩ := (ih h).enter (.comma hw) blanks_nil he
    have := Closes.close hds hclose
    rw [← heq] at this
    simpa [Finishes] using this
  | case12 => simp [failPast] at h

/-- **What is passed over is a value**, with blanks before it. -/
theorem skipValue_taken (h : skipValue cs = .ok rest) : ValueThen cs rest := by
  obtain ⟨more, hvalue, hmore⟩ := skipOpen_taken h
  cases hmore
  exact hvalue

end ShaperDash.Json
