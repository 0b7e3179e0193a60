import ShaperDash.Proofs.Json.Accepted
import ShaperDash.Proofs.Number.Extended

/-!
# What readers yield

Some things hold of whatever a reader makes of a text, of the values in a list as well as of a
record that is filled field by field, whichever of them the text gives.  So it is with numbers: what
a text spells is rounded more than once, and divided, but it always remains a number or becomes an
infinity.

* `Reader.Yields` : whatever the reader makes of a text has a property.
* `Reader.Yields.list`, `Record.reader_yields` : lists, and **records of which every field keeps the
  property**, in either spelling.
* `Numeral.value_ne_nan` : numerals stand for numbers.
* `Reader.single_yields` : **what is read as a number of 32 bits is one, or an infinity.**
-/

namespace ShaperDash.Json

variable {α β : Type} {cs rest : List Char}

/-! ### Readers -/

namespace Reader

/-- Whatever the reader makes of a text has the property. -/
def Yields (r : Reader α) (P : α → Prop) : Prop := ∀ cs a rest, r.run cs = .ok (a, rest) → P a

variable {r : Reader α} {P : α → Prop}

theorem Yields.map {f : α → β} {Q : β → Prop} (h : r.Yields fun a => Q (f a)) :
    (r.map f).Yields Q := by
  intro cs b rest hr
  obtain ⟨⟨a, rest'⟩, ha, heq⟩ := map_eq_ok_iff.1 hr
  obtain ⟨rfl, -⟩ : f a = b ∧ rest' = rest := by simpa using heq
  exact h cs a rest' ha

theorem yields_of_forall (h : ∀ a, P a) : r.Yields P := fun _ a _ _ => h a

theorem readElements_yields (h : r.Yields P) {first : Bool} {as : List α}
    (hr : readElements r first cs = .ok (as, rest)) : ∀ a ∈ as, P a := by
  fun_induction readElements r first cs generalizing as with
  | case1 => simp at hr
  | case2 first cs r' hnext =>
    obtain ⟨rfl, -⟩ : as = [] ∧ _ := by simpa [eq_comm] using hr
    exact List.forall_mem_nil P
  | case3 => simp at hr
  | case4 first cs r' hnext a r'' hrun _ _ ih =>
    obtain ⟨⟨as', rest'⟩, has, heq⟩ := map_eq_ok_iff.1 hr
    obtain ⟨rfl, rfl⟩ : a :: as' = as ∧ rest' = rest := by simpa using heq
    exact List.forall_mem_cons.2 ⟨h _ _ _ hrun, ih has⟩

theorem Yields.list (h : r.Yields P) : (list r).Yields fun as => ∀ a ∈ as, P a := by
  intro cs as rest hr
  simp only [Reader.list, bracketed] at hr
  split at hr
  · simp [failPast] at hr
  · split_ifs at hr with hopen
    · exact readElements_yields h hr
    · exact absurd hr mismatch_ne_ok

theorem Yields.decode (h : r.Yields P) {document : String} {a : α}
    (hd : r.decode document = .ok a) : P a := by
  obtain ⟨rest, hrun, -⟩ := Reader.decode_eq_ok_iff.1 hd
  exact h _ _ _ hrun

end Reader

/-! ### Records -/

/-- Whatever the field makes of a text, it keeps the property of the record. -/
def Field.Keeps (f : Field α) (P : α → Prop) : Prop :=
  f.reader.Yields fun change => ∀ a, P a → P (change a)

theorem Field.of_keeps {P : α → Prop} {name : String} {required : Bool} {r : Reader β}
    {set : β → α → α} (h : r.Yields fun b => ∀ a, P a → P (set b a)) :
    (Field.of name required r set).Keeps P := h.map

namespace Record

variable {R : Record α} {P : α → Prop}

theorem readMember_keeps (hR : ∀ f ∈ R.fields, f.Keeps P) {key : String} {draft : α}
    {given : List String} {s : α × List String} (hdraft : P draft)
    (h : R.readMember key draft given cs = .ok (s, rest)) : P s.1 := by
  unfold readMember at h
  split at h
  · split at h
    · simp at h
    · obtain ⟨_, -, heq⟩ := map_eq_ok_iff.1 h
      obtain ⟨rfl, -⟩ : (draft, given) = s ∧ _ := by simpa using heq
      exact hdraft
  · next f hf =>
    split_ifs at h
    · simp [failAt] at h
    · split at h
      · simp at h
      · obtain ⟨⟨change, r⟩, hr, heq⟩ := map_eq_ok_iff.1 h
        obtain ⟨rfl, -⟩ : (change draft, f.name :: given) = s ∧ _ := by simpa using heq
        exact hR f (field?_mem hf) _ _ _ hr draft hdraft

theorem readMembers_keeps (hR : ∀ f ∈ R.fields, f.Keeps P) {first : Bool} {draft a : α}
    {given : List String} (hdraft : P draft)
    (h : R.readMembers first draft given cs = .ok (a, rest)) : P a := by
  fun_induction R.readMembers first draft given cs with
  | case1 => simp at h
  | case2 first draft given cs r hk =>
    unfold finish at h
    split at h
    · simp [failAt] at h
    · obtain ⟨rfl, -⟩ : draft = a ∧ _ := by simpa using h
      exact hdraft
  | case3 => simp at h
  | case4 => simp at h
  | case5 first draft given cs r hk key r' hs draft' given' r'' hm _ _ _ ih =>
    exact ih (readMember_keeps hR hdraft hm) h

theorem readFields_keeps {fs : List (Field α)} (hfs : ∀ f ∈ fs, f.Keeps P) {first : Bool} {i : Nat}
    {draft a : α} (hdraft : P draft)
    (h : R.readFields first i draft fs cs = .ok (a, rest)) : P a := by
  induction fs generalizing first i draft cs with
  | nil =>
    obtain ⟨_, -, heq⟩ := map_eq_ok_iff.1 h
    obtain ⟨rfl, -⟩ : draft = a ∧ _ := by simpa using heq
    exact hdraft
  | cons f fs ih =>
    obtain ⟨hf, hfs⟩ := List.forall_mem_cons.1 hfs
    simp only [readFields] at h
    split at h
    · simp at h
    · split at h
      · simp [failAt] at h
      · obtain ⟨rfl, -⟩ : draft = a ∧ _ := by simpa using h
        exact hdraft
    · split at h
      · simp at h
      · next change r' hchange => exact ih hfs (hf _ _ _ hchange draft hdraft) h

/-- **A record has a property** that its draft has and that every field keeps. -/
theorem reader_yields (hdraft : P R.draft) (hR : ∀ f ∈ R.fields, f.Keeps P) :
    R.reader.Yields P := by
  intro cs a rest h
  simp only [reader] at h
  split at h
  · simp [failPast] at h
  · split_ifs at h with hobject hlist
    · exact readMembers_keeps hR hdraft h
    · exact readFields_keeps hR hdraft h
    · exact absurd h mismatch_ne_ok

end Record

/-! ### Numbers -/

/-- The powers of ten that numbers are scaled by are numbers of 64 bits, and none of them is 0. -/
theorem ofNat_power {n : Nat} (hn : n ≤ 308) :
    ∃ s m e, binary64.ofNat (Nat.pow 10 n) = .finite s m e ∧ m ≠ 0 := by
  have hall : ∀ n < 309, (Datum.finite false 0 0).lt (binary64.ofNat (Nat.pow 10 n)) = true ∧
      (binary64.ofNat (Nat.pow 10 n)).lt (.infinite false) = true := by decide +kernel
  obtain ⟨hpositive, hbounded⟩ := hall n (Nat.lt_succ_of_le hn)
  cases heq : binary64.ofNat (Nat.pow 10 n) with
  | nan =>
    rw [heq] at hpositive
    exact absurd hpositive nofun
  | infinite s =>
    rw [heq] at hpositive hbounded
    cases s with
    | false => exact absurd hbounded nofun
    | true => exact absurd hpositive nofun
  | finite s m e =>
    refine ⟨s, m, e, rfl, ?_⟩
    rintro rfl
    rw [heq, Datum.lt_finite_iff] at hpositive
    simp [Datum.signed] at hpositive

theorem div_power_ne_nan {d : Datum} {n : Nat} (hd : d ≠ .nan) (hn : n ≤ 308) :
    binary64.div d (binary64.ofNat (Nat.pow 10 n)) ≠ .nan := by
  obtain ⟨s, m, e, heq, hm⟩ := ofNat_power hn
  rw [heq]
  exact Format.div_ne_nan hd hm

theorem scaleDown_ne_nan {d : Datum} {n : Nat} (hd : d ≠ .nan) : scaleDown d n ≠ .nan := by
  fun_induction scaleDown d n with
  | case1 d n hn => exact div_power_ne_nan hd hn
  | case2 => exact nofun
  | case3 d n hn hzero ih =>
    apply ih
    apply div_power_ne_nan hd
    exact le_rfl

theorem scaled_ne_nan {m : Nat} {exponent : Int} {d : Datum} (h : scaled m exponent = some d) :
    d ≠ .nan := by
  have hnumber : binary64.ofNat m ≠ .nan := Format.round_ne_nan _ _ _
  unfold scaled at h
  extract_lets d₀ at h
  split_ifs at h with hnegative hzero
  · rw [← Option.some.inj h]
    exact scaleDown_ne_nan hnumber
  · rw [← Option.some.inj h]
    exact hnumber
  · obtain ⟨s, k, e, heq, hk⟩ := ofNat_power (n := exponent.toNat) (by omega)
    split at h
    · exact absurd h nofun
    · next p _ =>
      rw [← Option.some.inj h, heq]
      exact Format.mul_ne_nan hnumber hk

theorem withSign_ne_nan {negative : Bool} {d : Datum} (hd : d ≠ .nan) :
    withSign negative d ≠ .nan := by
  cases d with
  | nan => exact absurd rfl hd
  | _ => exact nofun

namespace Numeral

variable {n : Numeral} {d : Datum}

theorem toDatum_ne_nan (h : n.toDatum = .ok d) : d ≠ .nan := by
  have hscaled : ∀ {m : Nat} {e : Int} {d' : Datum}, scaled m e = some d' →
      (.ok (withSign n.negative d') : Except Nat Datum) = .ok d → d ≠ .nan := by
    intro m e d' hd' heq
    rw [← Except.ok.inj heq]
    exact withSign_ne_nan (scaled_ne_nan hd')
  unfold toDatum at h
  rcases n.significand with ⟨m, places⟩
  dsimp only at h
  split at h
  · split at h
    · next hd' => exact hscaled hd' h
    · cases h
  · split at h
    · split at h
      · next hd' => exact hscaled hd' h
      · cases h
    · split_ifs at h
      rw [← Except.ok.inj h]
      simp

/-- **Numerals stand for numbers**, or for infinities. -/
theorem value_ne_nan (h : n.value = .ok (.floating d)) : d ≠ .nan := by
  unfold value at h
  split at h
  · split_ifs at h
    · rw [← Number.floating.inj (Except.ok.inj h)]
      exact withSign_ne_nan (Format.round_ne_nan _ _ _)
    · exact absurd h nofun
    · exact absurd h nofun
  · cases hd' : n.toDatum with
    | error unread =>
      rw [hd'] at h
      exact absurd h nofun
    | ok d' =>
      rw [hd'] at h
      rw [← Number.floating.inj (Except.ok.inj h)]
      exact toDatum_ne_nan hd'

end Numeral

theorem readNumber_ne_nan {d : Datum} (h : readNumber cs = .ok (.floating d, rest)) :
    d ≠ .nan := by
  obtain ⟨⟨n, r⟩, -, hvalue⟩ := bind_eq_ok_iff.1 h
  dsimp only at hvalue
  split at hvalue
  · next v hv =>
    obtain ⟨rfl, -⟩ : v = .floating d ∧ r = rest := by simpa [pure, Except.pure] using hvalue
    exact Numeral.value_ne_nan hv
  · exact absurd hvalue nofun

theorem readHead_ne_nan {d : Datum} (h : readHead cs = .ok (.floating d, rest)) : d ≠ .nan := by
  have hword : ∀ {word : List Char} {head : Head} {cs : List Char}, head ≠ .floating d →
      readWord word head cs ≠ .ok (.floating d, rest) := by
    intro word head cs hne hr
    obtain ⟨_, -, heq⟩ := map_eq_ok_iff.1 hr
    exact hne (Prod.mk.inj heq).1
  unfold readHead at h
  split at h
  · cases h
  · split_ifs at h
    · exact absurd h (hword (by simp))
    · exact absurd h (hword (by simp))
    · exact absurd h (hword (by simp))
    · obtain ⟨_, -, heq⟩ := map_eq_ok_iff.1 h
      cases (Prod.mk.inj heq).1
    · obtain ⟨⟨n, r⟩, hn, heq⟩ := map_eq_ok_iff.1 h
      cases n with
      | integer i => cases (Prod.mk.inj heq).1
      | floating d' =>
        obtain ⟨rfl, -⟩ : d' = d ∧ r = rest := by simpa using heq
        exact readNumber_ne_nan hn
    all_goals cases h

/-- **What is read as a number of 32 bits is one**, or an infinity. -/
theorem Reader.single_yields : single.Yields (· ≠ .nan) := by
  intro cs d rest h
  simp only [single, scalar] at h
  split at h
  · exact absurd h nofun
  · next head r hr =>
    split at h
    · exact absurd h nofun
    · exact absurd h nofun
    · next d' hd' =>
      obtain ⟨rfl, -⟩ : d' = d ∧ r = rest := by simpa using h
      split at hd'
      · rw [← Except.ok.inj (Option.some.inj hd')]
        exact Format.round_ne_nan _ _ _
      · rw [← Except.ok.inj (Option.some.inj hd')]
        exact Format.convert_ne_nan (readHead_ne_nan hr)
      · exact absurd hd' nofun

end ShaperDash.Json
