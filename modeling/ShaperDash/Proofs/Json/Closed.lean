import Mathlib.Data.List.TakeWhile
import ShaperDash.Proofs.Json.Continuation

/-!
# Readers that know where to stop

What `Continuation` says of scanners carries over to readers.

* `Reader.Continues` : a reader does the same on a longer text if it left something unread.
* `Reader.Closed` : it does the same on every longer text.
* `Reader.pair_closed`, `Reader.list_closed`, `Record.reader_closed` : **values in brackets are
  closed** as soon as their parts continue.
* `Reader.Closed.decode_append_iff` : a document of a closed reader can neither be cut nor be
  lengthened but for blanks at its end.
-/

namespace ShaperDash.Json

section

variable {cs rest : List Char} (more : List Char)

/-! ### Heads -/

theorem readWord_append {word : List Char} {head₀ head : Head}
    (h : readWord word head₀ cs = .ok (head, rest)) :
    readWord word head₀ (cs ++ more) = .ok (head, rest ++ more) := by
  obtain ⟨r, hr, h⟩ := map_eq_ok_iff.1 h
  rw [readWord, scanWord_append more hr]
  simp_all

theorem readHead_append {head : Head} (h : readHead cs = .ok (head, rest)) (hr : rest ≠ []) :
    readHead (cs ++ more) = .ok (head, rest ++ more) := by
  unfold readHead at h
  split at h
  · simp [failPast] at h
  · next c r =>
    simp only [readHead, List.cons_append]
    split_ifs at h ⊢ with h1 h2 h3 h4 h5 h6 h7
    · exact readWord_append more h
    · exact readWord_append more h
    · exact readWord_append more h
    · obtain ⟨⟨s, r'⟩, hs, h⟩ := map_eq_ok_iff.1 h
      rw [scanString_append more hs]
      simp_all
    · obtain ⟨⟨n, r'⟩, hn, h⟩ := map_eq_ok_iff.1 h
      have hr' : r' = rest := by cases n <;> simp_all
      rw [← List.cons_append, readNumber_append more hn (hr' ▸ hr)]
      cases n <;> simp_all
    · cases h; rfl
    · cases h; rfl
    · simp [failPast] at h

/-! ### Punctuation -/

theorem nextElement_append {first b : Bool} (h : nextElement first cs = .ok (b, rest)) :
    nextElement first (cs ++ more) = .ok (b, rest ++ more) := by
  unfold nextElement at h
  split at h
  · simp [failPast] at h
  · next c r hc =>
    simp only [nextElement, skipBlanks_append more hc]
    split_ifs at h ⊢ with h1 h2 h3
    · cases h; rfl
    · cases h; rfl
    · split at h
      · simp [failPast] at h
      · next d m hd =>
        simp only [skipBlanks_append more hd]
        split_ifs at h ⊢ with h4
        · simp [failPast] at h
        · cases h; rfl
    · simp [failPast] at h

theorem closeList_append (h : closeList cs = .ok rest) :
    closeList (cs ++ more) = .ok (rest ++ more) := by
  unfold closeList at h
  split at h
  · simp [failPast] at h
  · next c r hc =>
    simp only [closeList, skipBlanks_append more hc]
    split_ifs at h ⊢ with h1 h2
    · cases h; rfl
    all_goals simp [failPast] at h

theorem nextKey_append {first b : Bool} (h : nextKey first cs = .ok (b, rest)) :
    nextKey first (cs ++ more) = .ok (b, rest ++ more) := by
  unfold nextKey at h
  split at h
  · simp [failPast] at h
  · next c r hc =>
    simp only [nextKey, skipBlanks_append more hc]
    split_ifs at h ⊢ with h1 h2 h3 h4
    · cases h; rfl
    · cases h; rfl
    · simp [failPast] at h
    · split at h
      · simp [failPast] at h
      · next d m hd =>
        simp only [skipBlanks_append more hd]
        split_ifs at h ⊢ with h5
        · cases h; rfl
        all_goals simp [failPast] at h
    · simp [failPast] at h

theorem takeColon_append (h : takeColon cs = .ok rest) :
    takeColon (cs ++ more) = .ok (rest ++ more) := by
  unfold takeColon at h
  split at h
  · simp [failPast] at h
  · next c r hc =>
    simp only [takeColon, skipBlanks_append more hc]
    split_ifs at h ⊢ with h1
    · cases h; rfl
    · simp [failPast] at h

/-! ### Values that are passed over -/

theorem skipKey_append (h : skipKey cs = .ok rest) : skipKey (cs ++ more) = .ok (rest ++ more) := by
  unfold skipKey at h
  split at h
  · simp [failPast] at h
  · next c r hc =>
    simp only [skipKey, skipBlanks_append more hc]
    split_ifs at h ⊢ with h1
    · split at h
      · simp at h
      · next r' hr' => simp only [skipString_append more hr', takeColon_append more h]
    · simp [failPast] at h

theorem enterElement_append {b : Bracket} (h : enterElement b cs = .ok rest) :
    enterElement b (cs ++ more) = .ok (rest ++ more) := by
  cases b with
  | square => cases h; rfl
  | curly => exact skipKey_append more h

/-- What `skipScalar` found in a longer text. -/
def Skipped.append : Skipped → Skipped
  | .scalar rest => .scalar (rest ++ more)
  | .opened b rest => .opened b (rest ++ more)

theorem skipScalar_append {s : Skipped} (h : skipScalar cs = .ok s) (hr : s.rest ≠ []) :
    skipScalar (cs ++ more) = .ok (s.append more) := by
  unfold skipScalar at h
  split at h
  · simp [failPast] at h
  · next c r =>
    simp only [skipScalar, List.cons_append]
    split_ifs at h ⊢ with h1 h2 h3 h4 h5 h6 h7
    iterate 3
      · obtain ⟨r', hr', rfl⟩ := map_eq_ok_iff.1 h
        rw [scanWord_append more hr']
        rfl
    · obtain ⟨r', hr', rfl⟩ := map_eq_ok_iff.1 h
      rw [skipString_append more hr']
      rfl
    · obtain ⟨⟨n, r'⟩, hn, rfl⟩ := map_eq_ok_iff.1 h
      rw [← List.cons_append, scanNumber_append more hn hr]
      rfl
    · cases h; rfl
    · cases h; rfl
    · simp [failPast] at h

theorem skipScalar_skipBlanks_append {s : Skipped} (h : skipScalar (skipBlanks cs) = .ok s)
    (hr : s.rest ≠ []) : skipScalar (skipBlanks (cs ++ more)) = .ok (s.append more) := by
  cases hc : skipBlanks cs with
  | nil => simp [hc, skipScalar, failPast] at h
  | cons c r =>
    rw [hc] at h
    rw [skipBlanks_append more hc]
    exact skipScalar_append more h hr

theorem skipOpen_append {b : Bool} {o : List Bracket} (h : skipOpen b o cs = .ok rest)
    (hr : rest ≠ []) : skipOpen b o (cs ++ more) = .ok (rest ++ more) := by
  -- every turn leaves something unread, since the last one does
  fun_induction skipOpen b o cs with
  | case1 => simp at h
  | case2 o cs r hs _ _ _ ih =>
    have hne : r ≠ [] := ne_nil_of_length_le (skipOpen_length h) hr
    rw [skipOpen_scalar (skipScalar_skipBlanks_append more hs hne)]
    exact ih h
  | case3 => simp [failPast] at h
  | case4 o cs b r hs _ _ _ m hc _ _ ih =>
    have hne : r ≠ [] := by rintro rfl; simp [skipBlanks] at hc
    rw [skipOpen_opened (skipScalar_skipBlanks_append more hs hne)]
    simp only [skipBlanks_append more hc, ↓reduceIte]
    exact ih h
  | case5 => simp at h
  | case6 o cs b r hs _ _ _ c m hc _ hb r' he _ _ ih =>
    have hne : r ≠ [] := by rintro rfl; simp [skipBlanks] at hc
    rw [skipOpen_opened (skipScalar_skipBlanks_append more hs hne)]
    simp only [skipBlanks_append more hc, if_neg hb]
    rw [← List.cons_append, enterElement_append more he]
    exact ih h
  | case7 inside cs hi =>
    obtain rfl : inside = false := by simpa using hi
    cases h
    exact skipOpen_nil
  | case8 => simp [failPast] at h
  | case9 inside cs hi b o m hc _ _ ih =>
    obtain rfl : inside = false := by simpa using hi
    simp only [skipOpen_between, skipBlanks_append more hc, ↓reduceIte]
    exact ih h
  | case10 => simp at h
  | case11 inside cs hi b o m r' he _ hc _ _ hb _ ih =>
    obtain rfl : inside = false := by simpa using hi
    simp only [skipOpen_between, skipBlanks_append more hc, if_neg hb, ↓reduceIte,
      enterElement_append more he]
    exact ih h
  | case12 => simp [failPast] at h

theorem skipValue_append (h : skipValue cs = .ok rest) (hr : rest ≠ []) :
    skipValue (cs ++ more) = .ok (rest ++ more) := skipOpen_append more h hr

end

/-! ### Readers -/

namespace Reader

variable {α β : Type}

/-- The reader does the same on a longer text if it left something unread. -/
def Continues (r : Reader α) : Prop :=
  ∀ cs a rest more, r.run cs = .ok (a, rest) → rest ≠ [] →
    r.run (cs ++ more) = .ok (a, rest ++ more)

/-- The reader does the same on every longer text. -/
def Closed (r : Reader α) : Prop :=
  ∀ cs a rest more, r.run cs = .ok (a, rest) → r.run (cs ++ more) = .ok (a, rest ++ more)

theorem Closed.continues {r : Reader α} (h : r.Closed) : r.Continues :=
  fun cs a rest more hr _ => h cs a rest more hr

theorem Continues.map {r : Reader α} (h : r.Continues) (f : α → β) : (r.map f).Continues := by
  intro cs b rest more hr hne
  obtain ⟨⟨a, rest'⟩, ha, heq⟩ := map_eq_ok_iff.1 hr
  obtain ⟨rfl, rfl⟩ : f a = b ∧ rest' = rest := by simpa using heq
  simp [Reader.map, h cs a rest' more ha hne]

theorem Closed.map {r : Reader α} (h : r.Closed) (f : α → β) : (r.map f).Closed := by
  intro cs b rest more hr
  obtain ⟨⟨a, rest'⟩, ha, heq⟩ := map_eq_ok_iff.1 hr
  obtain ⟨rfl, rfl⟩ : f a = b ∧ rest' = rest := by simpa using heq
  simp [Reader.map, h cs a rest' more ha]

theorem scalar_continues {want : String} {accept : Head → Option (Except Cause α)}
    {opening : ∀ h, h.isOpening = true → accept h = none} :
    (scalar want accept opening).Continues := by
  intro cs a rest more h hne
  simp only [scalar] at h ⊢
  split at h
  · simp at h
  · next head r hh =>
    split at h
    · simp [failAt] at h
    · simp [failAt] at h
    · next b hb =>
      cases h
      cases hc : skipBlanks cs with
      | nil => simp [hc, readHead, failPast] at hh
      | cons c r' =>
        rw [hc] at hh
        rw [skipBlanks_append more hc, ← List.cons_append, readHead_append more hh hne]
        simp only [hb]

theorem boolean_continues : boolean.Continues := scalar_continues

theorem text_continues : text.Continues := scalar_continues

theorem word32_continues : word32.Continues := scalar_continues.map _

theorem word64_continues : word64.Continues := scalar_continues.map _

theorem single_continues : single.Continues := scalar_continues

theorem bracketed_closed {want : String} {open₁ : Char}
    {body : List Char → Except Failure (α × List Char)}
    {hb : ∀ {cs a rest}, body cs = .ok (a, rest) → rest.length ≤ cs.length}
    (h : ∀ cs a rest more, body cs = .ok (a, rest) → body (cs ++ more) = .ok (a, rest ++ more)) :
    (bracketed want open₁ body hb).Closed := by
  intro cs a rest more hr
  simp only [bracketed] at hr ⊢
  split at hr
  · simp [failPast] at hr
  · next c r hc =>
    simp only [skipBlanks_append more hc]
    split_ifs at hr ⊢ with ho
    · exact h r a rest more hr
    · exact absurd hr mismatch_ne_ok

end Reader

/-- What is left before a closing bracket or a comma is not nothing. -/
theorem ne_nil_of_nextElement {first b : Bool} {cs rest : List Char}
    (h : nextElement first cs = .ok (b, rest)) : cs ≠ [] := by
  rintro rfl
  simp [nextElement, skipBlanks, failPast] at h

theorem readElements_append {α : Type} {item : Reader α} (hi : item.Continues) {first : Bool}
    {cs rest : List Char} {as : List α} (more : List Char)
    (h : readElements item first cs = .ok (as, rest)) :
    readElements item first (cs ++ more) = .ok (as, rest ++ more) := by
  fun_induction readElements item first cs generalizing as with
  | case1 => simp at h
  | case2 first cs r hr =>
    obtain ⟨r', rfl⟩ := nextElement_false hr
    cases h
    rw [readElements_close (nextElement_append more hr)]
    rfl
  | case3 => simp at h
  | case4 first cs r hr a r' ha _ _ ih =>
    obtain ⟨⟨as', rest'⟩, has, h⟩ := map_eq_ok_iff.1 h
    cases h
    -- another element or the bracket comes behind this one
    have hne : r' ≠ [] := by
      rintro rfl
      simp [readElements, nextElement, skipBlanks, failPast] at has
    rw [readElements_item (nextElement_append more hr)]
    simp only [hi _ _ _ more ha hne, ok_bind, ih has, ok_map]

namespace Reader

variable {α β : Type}

theorem list_closed {item : Reader α} (h : item.Continues) : (list item).Closed :=
  bracketed_closed fun _ _ _ more hr => readElements_append h more hr

theorem readPair_append {r : Reader α} {s : Reader β} (hr : r.Continues) (hs : s.Continues)
    {cs rest : List Char} {p : α × β} (more : List Char) (h : readPair r s cs = .ok (p, rest)) :
    readPair r s (cs ++ more) = .ok (p, rest ++ more) := by
  obtain ⟨⟨b₁, r₁⟩, h₁, h⟩ := bind_eq_ok_iff.1 h
  simp only at h
  split_ifs at h with hb₁
  · obtain ⟨⟨a, r₂⟩, h₂, h⟩ := bind_eq_ok_iff.1 h
    obtain ⟨⟨b₃, r₃⟩, h₃, h⟩ := bind_eq_ok_iff.1 h
    simp only at h
    split_ifs at h with hb₃
    · obtain ⟨⟨b, r₄⟩, h₄, h⟩ := bind_eq_ok_iff.1 h
      obtain ⟨r₅, h₅, h⟩ := bind_eq_ok_iff.1 h
      -- the closing bracket comes behind the second element
      have hne : r₄ ≠ [] := by
        rintro rfl
        simp [closeList, skipBlanks, failPast] at h₅
      cases h
      simp only [readPair, nextElement_append more h₁, ok_bind, if_pos hb₁,
        hr _ _ _ more h₂ (ne_nil_of_nextElement h₃), nextElement_append more h₃, if_pos hb₃,
        hs _ _ _ more h₄ hne, closeList_append more h₅]
      rfl
    · simp [failAt] at h
  · simp [failAt] at h

theorem pair_closed {r : Reader α} {s : Reader β} (hr : r.Continues) (hs : s.Continues) :
    (pair r s).Closed :=
  bracketed_closed fun _ _ _ more h => readPair_append hr hs more h

end Reader

/-! ### Records -/

theorem Field.of_continues {α β : Type} {name : String} {required : Bool} {r : Reader β}
    {set : β → α → α} (h : r.Continues) : (Field.of name required r set).reader.Continues :=
  h.map set

namespace Record

variable {α : Type} {R : Record α} {cs rest : List Char} (more : List Char)

theorem field?_mem {name : String} {f : Field α} (h : R.field? name = some f) : f ∈ R.fields :=
  List.mem_of_find?_eq_some h

theorem finish_append {draft a : α} {given : List String}
    (h : R.finish draft given cs = .ok (a, rest)) :
    R.finish draft given (cs ++ more) = .ok (a, rest ++ more) := by
  unfold finish at h ⊢
  split at h
  · simp [failAt] at h
  · cases h; rfl

theorem readMember_append (hR : ∀ f ∈ R.fields, f.reader.Continues) {key : String} {draft : α}
    {given : List String} {s : α × List String}
    (h : R.readMember key draft given cs = .ok (s, rest)) (hr : rest ≠ []) :
    R.readMember key draft given (cs ++ more) = .ok (s, rest ++ more) := by
  unfold readMember at h ⊢
  split at h
  · split at h
    · simp at h
    · next r hc =>
      obtain ⟨r', hs, h⟩ := map_eq_ok_iff.1 h
      cases h
      simp only [takeColon_append more hc, skipValue_append more hs hr, ok_map]
  · next f hf =>
    split_ifs at h ⊢ with hg
    · simp [failAt] at h
    · split at h
      · simp at h
      · next r hc =>
        obtain ⟨⟨set, r'⟩, hv, h⟩ := map_eq_ok_iff.1 h
        cases h
        simp only [takeColon_append more hc, hR f (field?_mem hf) _ _ _ more hv hr, ok_map]

theorem readMembers_append (hR : ∀ f ∈ R.fields, f.reader.Continues) {first : Bool} {draft a : α}
    {given : List String} (h : R.readMembers first draft given cs = .ok (a, rest)) :
    R.readMembers first draft given (cs ++ more) = .ok (a, rest ++ more) := by
  fun_induction R.readMembers first draft given cs with
  | case1 => simp at h
  | case2 first draft given cs r hk =>
    obtain ⟨r', rfl⟩ := nextKey_false hk
    rw [readMembers_close (nextKey_append more hk)]
    exact finish_append more h
  | case3 => simp at h
  | case4 => simp at h
  | case5 first draft given cs r hk key r' hs draft' given' r'' hm _ _ _ ih =>
    -- another member or the bracket comes behind this one
    have hne : r'' ≠ [] := by
      rintro rfl
      simp [readMembers, nextKey, skipBlanks, failPast] at h
    rw [readMembers_member (nextKey_append more hk)]
    simp only [scanString_append more hs, ok_bind, readMember_append more hR hm hne]
    exact ih h

theorem readFields_append {fs : List (Field α)} (hfs : ∀ f ∈ fs, f.reader.Continues)
    {first : Bool} {i : Nat} {draft a : α} (h : R.readFields first i draft fs cs = .ok (a, rest)) :
    R.readFields first i draft fs (cs ++ more) = .ok (a, rest ++ more) := by
  induction fs generalizing first i draft cs with
  | nil =>
    obtain ⟨r, hr, h⟩ := map_eq_ok_iff.1 h
    cases h
    simp only [readFields, closeList_append more hr, ok_map]
  | cons f fs ih =>
    simp only [readFields] at h ⊢
    split at h
    · simp at h
    · next r hr =>
      obtain ⟨r', rfl⟩ := nextElement_false hr
      simp only [nextElement_append more hr, List.cons_append]
      split at h
      · simp [failAt] at h
      · cases h; rfl
    · next r hr =>
      split at h
      · simp at h
      · next set r' hv =>
        -- another element or the bracket comes behind this one
        have hne : r' ≠ [] := by
          rintro rfl
          cases fs <;>
            simp [readFields, closeList, nextElement, skipBlanks, failPast, Except.map] at h
        simp only [nextElement_append more hr, hfs f List.mem_cons_self _ _ _ more hv hne]
        exact ih (fun g hg => hfs g (List.mem_cons_of_mem f hg)) h

/-- **A record is closed** as soon as the readers of its fields continue. -/
theorem reader_closed (hR : ∀ f ∈ R.fields, f.reader.Continues) : R.reader.Closed := by
  intro cs a rest more h
  simp only [reader] at h ⊢
  split at h
  · simp [failPast] at h
  · next c r hc =>
    simp only [skipBlanks_append more hc]
    split_ifs at h ⊢ with h1 h2
    · exact readMembers_append more hR h
    · exact readFields_append more hR h
    · exact absurd h mismatch_ne_ok

end Record

/-! ### Documents -/

namespace Reader

variable {α : Type} {r : Reader α}

theorem skipBlanks_eq_nil_iff {cs : List Char} : skipBlanks cs = [] ↔ ∀ c ∈ cs, isBlank c :=
  List.dropWhile_eq_nil_iff

theorem decode_eq_ok_iff {document : String} {a : α} :
    r.decode document = .ok a ↔
      ∃ rest, r.run document.toList = .ok (a, rest) ∧ ∀ c ∈ rest, isBlank c := by
  simp only [decode, ← skipBlanks_eq_nil_iff]
  cases r.run document.toList with
  | error e => simp [Except.mapError]
  | ok p =>
    obtain ⟨b, rest⟩ := p
    simp only [Except.ok.injEq, Prod.mk.injEq]
    cases hb : skipBlanks rest with
    | nil => simp [Except.mapError, hb]
    | cons c more => simp [Except.mapError, hb, failPast]

/-- What a closed reader makes of a document it makes of the longer document too, exactly if the
addition holds nothing but blanks; with anything else the longer document is refused. -/
theorem Closed.decode_append_iff (hr : r.Closed) {document addition : String} {a b : α}
    (h : r.decode document = .ok a) :
    r.decode (document ++ addition) = .ok b ↔ a = b ∧ ∀ c ∈ addition.toList, isBlank c := by
  obtain ⟨rest, hrun, hrest⟩ := decode_eq_ok_iff.1 h
  have hrun' := hr _ _ _ addition.toList hrun
  rw [decode_eq_ok_iff, String.toList_append, hrun']
  constructor
  · rintro ⟨rest', heq, hrest'⟩
    cases heq
    exact ⟨rfl, fun c hc => hrest' c (List.mem_append_right _ hc)⟩
  · rintro ⟨rfl, hadd⟩
    exact ⟨_, rfl, fun c hc => (List.mem_append.1 hc).elim (hrest c) (hadd c)⟩

end Reader

end ShaperDash.Json
