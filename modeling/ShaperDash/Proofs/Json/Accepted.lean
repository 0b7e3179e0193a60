import ShaperDash.Proofs.Json.RecordMeaning
import ShaperDash.Proofs.Json.Taken

/-!
# What readers take is spelled

A reader takes nothing but values off a text, so a document that is decoded is a document of the
grammar.  Together with what readers make of values this says which documents are decoded, with no
document left out.

* `Reader.Takes` : the reader takes a value.
* `Reader.scalar_takes`, `Reader.variant_takes`, `Record.reader_takes` : **every reader takes
  values**, as soon as the readers of its parts do.
* `Reader.Takes.decode_eq_ok_iff` : a document is decoded exactly if it spells a value that the
  reader makes something of.
-/

namespace ShaperDash.Json

variable {α β : Type} {cs rest : List Char}

/-! ### Scalars -/

theorem readWord_taken {first : Char} {word : List Char} {head₀ head : Head}
    (h : readWord word head₀ cs = .ok (head, rest)) : first :: cs = first :: word ++ rest := by
  obtain ⟨r, hr, heq⟩ := map_eq_ok_iff.1 h
  obtain ⟨-, rfl⟩ : head₀ = head ∧ r = rest := by simpa using heq
  rw [scanWord_taken hr, List.cons_append]

theorem readNumber_taken {n : Number} (h : readNumber cs = .ok (n, rest)) :
    ∃ n ds, SpellsNumeral n ds ∧ cs = ds ++ rest := by
  obtain ⟨⟨m, r⟩, hm, hvalue⟩ := bind_eq_ok_iff.1 h
  dsimp only at hvalue
  split at hvalue
  · obtain ⟨-, rfl⟩ : _ ∧ r = rest := by simpa [pure, Except.pure] using hvalue
    exact ⟨m, scanNumber_taken hm⟩
  · simp at hvalue

theorem readHead_taken {head : Head} (h : readHead cs = .ok (head, rest))
    (ho : head.isOpening = false) : ∃ v ds, Spells (.value v) ds ∧ cs = ds ++ rest := by
  unfold readHead at h
  split at h
  · simp [failPast] at h
  · next c r =>
    split_ifs at h with hn ht hf hq hd hl hc
    · exact ⟨_, _, .null, hn ▸ readWord_taken h⟩
    · exact ⟨_, _, .yes, ht ▸ readWord_taken h⟩
    · exact ⟨_, _, .no, hf ▸ readWord_taken h⟩
    · obtain ⟨⟨s, r'⟩, hs, heq⟩ := map_eq_ok_iff.1 h
      obtain ⟨-, rfl⟩ : _ ∧ r' = rest := by simpa using heq
      obtain ⟨us, ds, hds, rfl⟩ := scanString_taken hs
      exact ⟨_, _, .text hds, by simp [hq]⟩
    · obtain ⟨⟨n, r'⟩, hn, heq⟩ := map_eq_ok_iff.1 h
      obtain rfl : r' = rest := by cases n <;> exact (Prod.mk.inj heq).2
      obtain ⟨n, ds, hds, heq⟩ := readNumber_taken hn
      exact ⟨_, ds, .number hds, heq⟩
    · obtain ⟨rfl, -⟩ : Head.sequence = head ∧ _ := by simpa using h
      simp [Head.isOpening] at ho
    · obtain ⟨rfl, -⟩ : Head.map = head ∧ _ := by simpa using h
      simp [Head.isOpening] at ho
    · simp [failPast] at h

/-! ### Punctuation -/

theorem nextElement_taken {first : Bool} (h : nextElement first cs = .ok (true, rest)) :
    ∃ s w, Separator first s ∧ Blanks w ∧ cs = s ++ (w ++ rest) := by
  unfold nextElement at h
  split at h
  · simp [failPast] at h
  · next c r hr =>
    split_ifs at h with hc hf hcomma
    · simp at h
    · obtain rfl : c :: r = rest := by simpa using h
      obtain ⟨w, hw, rfl⟩ := exists_blanks_of_eq hr
      exact ⟨[], w, hf ▸ .first, hw, rfl⟩
    · split at h
      · simp [failPast] at h
      · next d more hmore =>
        split_ifs at h with hd
        · simp [failPast] at h
        · obtain rfl : d :: more = rest := by simpa using h
          obtain ⟨w, hw, rfl⟩ := exists_blanks_of_eq hr
          obtain ⟨w', hw', rfl⟩ := exists_blanks_of_eq hmore
          obtain rfl : first = false := by simpa using hf
          exact ⟨w ++ [','], w', .comma hw, hw', by simp [hcomma]⟩
    · simp [failPast] at h

theorem nextElement_blanks {first : Bool} (h : nextElement first cs = .ok (false, rest)) :
    ∃ w r, Blanks w ∧ rest = ']' :: r ∧ cs = w ++ rest := by
  obtain ⟨r, rfl⟩ := nextElement_false h
  unfold nextElement at h
  split at h
  · simp [failPast] at h
  · next c r' hr =>
    split_ifs at h with hc
    · obtain ⟨rfl, rfl⟩ : c = ']' ∧ r' = r := by simpa using h
      obtain ⟨w, hw, heq⟩ := exists_blanks_of_eq hr
      exact ⟨w, _, hw, rfl, heq⟩
    · simp at h
    · split at h
      · simp [failPast] at h
      · split_ifs at h
        · simp [failPast] at h
        · simp at h
    · simp [failPast] at h

theorem closeList_taken (h : closeList cs = .ok rest) : ∃ w, Blanks w ∧ cs = w ++ ']' :: rest := by
  unfold closeList at h
  split at h
  · simp [failPast] at h
  · next c r hr =>
    split_ifs at h with hc
    · obtain rfl : r = rest := by simpa using h
      exact exists_blanks_of_eq (hc ▸ hr)
    all_goals simp [failPast] at h

theorem nextKey_taken {first : Bool} (h : nextKey first cs = .ok (true, rest)) :
    ∃ s w, Separator first s ∧ Blanks w ∧ cs = s ++ (w ++ '"' :: rest) := by
  unfold nextKey at h
  split at h
  · simp [failPast] at h
  · next c r hr =>
    split_ifs at h with hc hf hq hcomma
    · simp at h
    · obtain rfl : r = rest := by simpa using h
      obtain ⟨w, hw, rfl⟩ := exists_blanks_of_eq hr
      exact ⟨[], w, hf ▸ .first, hw, by simp [hq]⟩
    · simp [failPast] at h
    · split at h
      · simp [failPast] at h
      · next d more hmore =>
        split_ifs at h with hd
        · obtain rfl : more = rest := by simpa using h
          obtain ⟨w, hw, rfl⟩ := exists_blanks_of_eq hr
          obtain ⟨w', hw', rfl⟩ := exists_blanks_of_eq hmore
          obtain rfl : first = false := by simpa using hf
          exact ⟨w ++ [','], w', .comma hw, hw', by simp [hcomma, hd]⟩
        all_goals simp [failPast] at h
    · simp [failPast] at h

theorem nextKey_blanks {first : Bool} (h : nextKey first cs = .ok (false, rest)) :
    ∃ w r, Blanks w ∧ rest = '}' :: r ∧ cs = w ++ rest := by
  obtain ⟨r, rfl⟩ := nextKey_false h
  unfold nextKey at h
  split at h
  · simp [failPast] at h
  · next c r' hr =>
    split_ifs at h with hc
    · obtain ⟨rfl, rfl⟩ : c = '}' ∧ r' = r := by simpa using h
      obtain ⟨w, hw, heq⟩ := exists_blanks_of_eq hr
      exact ⟨w, _, hw, rfl, heq⟩
    · simp at h
    · simp [failPast] at h
    · split at h
      · simp [failPast] at h
      · split_ifs at h
        · simp at h
        all_goals simp [failPast] at h
    · simp [failPast] at h

/-! ### Readers -/

namespace Reader

/-- Whatever the reader takes off a text is a value, with blanks before it. -/
def Takes (r : Reader α) : Prop := ∀ cs a rest, r.run cs = .ok (a, rest) → ValueThen cs rest

theorem Takes.map {r : Reader α} (h : r.Takes) (f : α → β) : (r.map f).Takes := by
  intro cs b rest hr
  obtain ⟨⟨a, rest'⟩, ha, heq⟩ := map_eq_ok_iff.1 hr
  obtain ⟨-, rfl⟩ : f a = b ∧ rest' = rest := by simpa using heq
  exact h cs a rest' ha

theorem scalar_takes {want : String} {accept : Head → Option (Except Cause α)}
    {opening : ∀ h, h.isOpening = true → accept h = none} : (scalar want accept opening).Takes := by
  intro cs a rest h
  simp only [scalar] at h
  split at h
  · simp at h
  · next head r hr =>
    split at h
    · simp [failAt] at h
    · simp [failAt] at h
    · next b hb =>
      obtain ⟨-, rfl⟩ : b = a ∧ r = rest := by simpa using h
      -- an accepted head is no bracket, so it has been read to its end
      have ho : head.isOpening = false := by
        cases ho : head.isOpening with
        | false => rfl
        | true => simp [opening head ho] at hb
      obtain ⟨w, hw, hcs⟩ := exists_blanks cs
      obtain ⟨v, ds, hds, heq⟩ := readHead_taken hr ho
      exact ⟨w, v, ds, hw, hds, hcs.trans (congrArg _ heq)⟩

theorem word64_takes : word64.Takes := scalar_takes.map _

theorem count_takes : count.Takes := scalar_takes.map _

theorem optionalPath_takes : optionalPath.Takes := scalar_takes

/-- A document that is decoded spells a value. -/
theorem Takes.spelled {r : Reader α} (h : r.Takes) {document : String} {a : α}
    (hd : r.decode document = .ok a) : ∃ v : Value, v.SpelledBy document := by
  obtain ⟨rest, hrun, hrest⟩ := Reader.decode_eq_ok_iff.1 hd
  obtain ⟨w, v, ds, hw, hds, heq⟩ := h _ _ _ hrun
  exact ⟨v, w, ds, rest, hw, hds, hrest, heq⟩

/-- **A document is decoded exactly if it spells a value** that the reader makes something of. -/
theorem Takes.decode_eq_ok_iff {r : Reader α} {f : Value → Option α} (ht : r.Takes)
    (hf : r.Denotes f) {document : String} {a : α} :
    r.decode document = .ok a ↔ ∃ v : Value, v.SpelledBy document ∧ f v = some a := by
  constructor
  · intro hd
    obtain ⟨v, hv⟩ := ht.spelled hd
    exact ⟨v, hv, (hf.decode_eq_ok_iff hv).1 hd⟩
  · rintro ⟨v, hv, hfv⟩
    exact (hf.decode_eq_ok_iff hv).2 hfv

/-! ### Named variants -/

/-- A name is spelled by a string. -/
theorem name_taken {names : List (String × α)} {a : α}
    (h : (name names).run ('"' :: cs) = .ok (a, rest)) :
    ∃ us ks, SpellsText us ks ∧ cs = ks ++ '"' :: rest := by
  obtain ⟨w, v, ds, hw, hds, heq⟩ := scalar_takes _ _ _ h
  obtain rfl : w = [] := by
    cases w with
    | nil => rfl
    | cons c w =>
      obtain ⟨rfl, -⟩ : '"' = c ∧ _ := by simpa using heq
      exact absurd (hw '"' List.mem_cons_self) (by decide)
  cases hds with
  | @text us ks hks =>
    obtain rfl : cs = ks ++ '"' :: rest := by simpa using heq
    exact ⟨us, ks, hks, rfl⟩
  | number hn =>
    -- no number begins with a quotation mark
    obtain ⟨c, r, rfl, hc⟩ := hn.opens
    obtain ⟨rfl, -⟩ : '"' = c ∧ _ := by simpa using heq
    exact absurd rfl hc.ne.2.2.2.1
  | _ => simp at heq

theorem closeVariant_taken {a b : α} (h : closeVariant a cs = .ok (b, rest)) :
    ∃ w mid more, Blanks w ∧ cs = w ++ ':' :: mid ∧ ValueThen mid more ∧
      ∃ w', Blanks w' ∧ more = w' ++ '}' :: rest := by
  obtain ⟨mid, hmid, hvalue⟩ := bind_eq_ok_iff.1 h
  obtain ⟨⟨u, more⟩, hmore, hclose⟩ := bind_eq_ok_iff.1 hvalue
  dsimp only at hclose
  split at hclose
  · simp [failAt] at hclose
  · next c r hr =>
    split_ifs at hclose with hc
    · obtain ⟨-, rfl⟩ : a = b ∧ r = rest := by simpa [pure, Except.pure] using hclose
      obtain ⟨w, hw, rfl⟩ := takeColon_taken hmid
      exact ⟨w, mid, more, hw, rfl, scalar_takes _ _ _ hmore, exists_blanks_of_eq (hc ▸ hr)⟩
    · simp [failAt] at hclose

theorem readVariant_taken {names : List (String × α)} {a : α}
    (h : readVariant names cs = .ok (a, rest)) :
    ∃ ms ds, Spells (.members true ms) ds ∧ cs = ds ++ '}' :: rest := by
  unfold readVariant at h
  split at h
  · simp [failAt] at h
  · next c r hr =>
    split_ifs at h with hc hq
    · simp [failPast] at h
    · obtain ⟨⟨b, more⟩, hname, hclose⟩ := bind_eq_ok_iff.1 h
      obtain ⟨w, hw, rfl⟩ := exists_blanks_of_eq (hq ▸ hr)
      rw [hq] at hname
      obtain ⟨us, ks, hks, rfl⟩ := name_taken hname
      obtain ⟨w₂, _, _, hw₂, rfl, ⟨w₃, v, ds, hw₃, hds, rfl⟩, w₄, hw₄, rfl⟩ :=
        closeVariant_taken hclose
      exact ⟨[(us, v)], _, .member .first hw hks hw₂ hw₃ hds (.noMember hw₄), by simp⟩
    · simp [failPast] at h

theorem variant_takes (names : List (String × α)) : (variant names).Takes := by
  intro cs a rest h
  obtain ⟨w, hw, hcs⟩ := exists_blanks cs
  simp only [variant, readSpelling] at h
  split at h
  · simp [failPast] at h
  · next c r hr =>
    rw [hr] at hcs
    split_ifs at h with ho hq
    · obtain ⟨ms, ds, hds, rfl⟩ := readVariant_taken h
      exact ⟨w, _, _, hw, .object hds, by simp [hcs, ho]⟩
    · rw [hq] at h
      obtain ⟨us, ks, hks, rfl⟩ := name_taken h
      exact ⟨w, _, _, hw, .text hks, by simp [hcs, hq]⟩
    · simp [failPast] at h

end Reader

/-! ### Records -/

theorem Field.of_takes {name : String} {required : Bool} {r : Reader β} {set : β → α → α}
    (h : r.Takes) : (Field.of name required r set).reader.Takes := h.map set

namespace Record

variable {R : Record α}

theorem readMember_taken (hR : ∀ f ∈ R.fields, f.reader.Takes) {key : String} {draft : α}
    {given : List String} {s : α × List String}
    (h : R.readMember key draft given cs = .ok (s, rest)) :
    ∃ w mid, Blanks w ∧ cs = w ++ ':' :: mid ∧ ValueThen mid rest := by
  unfold readMember at h
  split at h
  · split at h
    · simp at h
    · next mid hmid =>
      obtain ⟨r, hr, heq⟩ := map_eq_ok_iff.1 h
      obtain ⟨-, rfl⟩ : _ ∧ r = rest := by simpa using heq
      obtain ⟨w, hw, rfl⟩ := takeColon_taken hmid
      exact ⟨w, mid, hw, rfl, skipValue_taken hr⟩
  · next f hf =>
    split_ifs at h with hg
    · simp [failAt] at h
    · split at h
      · simp at h
      · next mid hmid =>
        obtain ⟨⟨set, r⟩, hr, heq⟩ := map_eq_ok_iff.1 h
        obtain ⟨-, rfl⟩ : _ ∧ r = rest := by simpa using heq
        obtain ⟨w, hw, rfl⟩ := takeColon_taken hmid
        exact ⟨w, mid, hw, rfl, hR f (field?_mem hf) _ _ _ hr⟩

theorem readMembers_taken (hR : ∀ f ∈ R.fields, f.reader.Takes) {first : Bool} {draft a : α}
    {given : List String} (h : R.readMembers first draft given cs = .ok (a, rest)) :
    ∃ ms ds, Spells (.members first ms) ds ∧ cs = ds ++ '}' :: rest := by
  fun_induction R.readMembers first draft given cs with
  | case1 => simp at h
  | case2 first draft given cs r hk =>
    obtain ⟨w, r', hw, rfl, rfl⟩ := nextKey_blanks hk
    unfold finish at h
    split at h
    · simp [failAt] at h
    · obtain ⟨-, rfl⟩ : draft = a ∧ r' = rest := by simpa using h
      exact ⟨[], w, .noMember hw, rfl⟩
  | case3 => simp at h
  | case4 => simp at h
  | case5 first draft given cs r hk key r' hs draft' given' r'' hm _ _ _ ih =>
    obtain ⟨ms, ds, hds, rfl⟩ := ih h
    obtain ⟨s, w, hsep, hw, rfl⟩ := nextKey_taken hk
    obtain ⟨us, ks, hks, rfl⟩ := scanString_taken hs
    obtain ⟨w₂, _, hw₂, rfl, w₃, v, es, hw₃, hes, rfl⟩ := readMember_taken hR hm
    exact ⟨(us, v) :: ms, _, .member hsep hw hks hw₂ hw₃ hes hds, by simp⟩

theorem readFields_taken {fs : List (Field α)} (hfs : ∀ f ∈ fs, f.reader.Takes) {first : Bool}
    {i : Nat} {draft a : α} (h : R.readFields first i draft fs cs = .ok (a, rest)) :
    ∃ vs ds, Spells (.elements first vs) ds ∧ cs = ds ++ ']' :: rest := by
  induction fs generalizing first i draft cs with
  | nil =>
    obtain ⟨r, hr, heq⟩ := map_eq_ok_iff.1 h
    obtain ⟨-, rfl⟩ : draft = a ∧ r = rest := by simpa using heq
    obtain ⟨w, hw, rfl⟩ := closeList_taken hr
    exact ⟨[], w, .noElement hw, rfl⟩
  | cons f fs ih =>
    simp only [readFields] at h
    split at h
    · simp at h
    · next r hr =>
      obtain ⟨w, r', hw, rfl, rfl⟩ := nextElement_blanks hr
      split at h
      · simp [failAt] at h
      · obtain ⟨-, rfl⟩ : draft = a ∧ r' = rest := by simpa using h
        exact ⟨[], w, .noElement hw, rfl⟩
    · next r hr =>
      split at h
      · simp at h
      · next set r' hv =>
        obtain ⟨vs, ds, hds, rfl⟩ := ih (fun g hg => hfs g (List.mem_cons_of_mem f hg)) h
        obtain ⟨s, w, hsep, hw, rfl⟩ := nextElement_taken hr
        obtain ⟨w', v, es, hw', hes, rfl⟩ := hfs f List.mem_cons_self _ _ _ hv
        refine ⟨v :: vs, s ++ ((w ++ w') ++ (es ++ ds)), ?_, by simp⟩
        exact .element hsep (hw.append hw') hes hds

/-- **A record takes values**, in either spelling, as soon as its fields do. -/
theorem reader_takes (hR : ∀ f ∈ R.fields, f.reader.Takes) : R.reader.Takes := by
  intro cs a rest h
  obtain ⟨w, hw, hcs⟩ := exists_blanks cs
  simp only [reader] at h
  split at h
  · simp [failPast] at h
  · next c r hr =>
    rw [hr] at hcs
    split_ifs at h with ho hl
    · obtain ⟨ms, ds, hds, rfl⟩ := readMembers_taken hR h
      exact ⟨w, _, _, hw, .object hds, by simp [hcs, ho]⟩
    · obtain ⟨vs, ds, hds, rfl⟩ := readFields_taken hR h
      exact ⟨w, _, _, hw, .list hds, by simp [hcs, hl]⟩
    · exact absurd h mismatch_ne_ok

end Record

end ShaperDash.Json
