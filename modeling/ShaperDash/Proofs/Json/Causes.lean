import Mathlib.Tactic.SplitIfs
import ShaperDash.Json.Record
import ShaperDash.Json.Variant

/-!
# The words of faults

A fault of the spelling says no more than what was expected.  The other faults speak of what was
wanted, in words of the reader; of what the document holds they quote a name at most.

* `Cause.Words` : what the words of the reader are like, and the text of the document.
* `Worded` : the words of whatever fault a reading ends with are like that.
* `Reader.scalar_speaks`, `Reader.variant_speaks`, `Record.reader_speaks` : **readers speak in words
  of their own** and of their parts.
-/

namespace ShaperDash.Json

/-- The words of the reader in which a fault speaks have the property `P`, and the text of the
document that it repeats as it stands there has the property `Q`. -/
def Cause.Words (P Q : String → Prop) : Cause → Prop
  | .wrongType _ want => P want
  | .wrongValue _ want => P want
  | .wrongLength _ want => P want
  | .missingField name => P name
  | .duplicateField name => P name
  | .unknownVariant name known => Q name ∧ ∀ w ∈ known, P w
  | _ => True

theorem Cause.Words.mono {P Q Q' : String → Prop} {c : Cause} (h : c.Words P Q)
    (hq : ∀ s, Q s → Q' s) : c.Words P Q' := by
  cases c with
  | unknownVariant name known => exact ⟨hq name h.1, h.2⟩
  | _ => exact h

/-- The words of whatever fault a reading ends with have the properties. -/
def Worded {α : Type} (P Q : String → Prop) (x : Except Failure α) : Prop :=
  ∀ f, x = .error f → f.cause.Words P Q

variable {α β : Type} {P Q : String → Prop}

@[simp] theorem worded_ok (a : α) : Worded P Q (.ok a) := by
  intro f h
  cases h

@[simp] theorem worded_error {f : Failure} :
    Worded P Q (.error f : Except Failure α) ↔ f.cause.Words P Q := by
  refine ⟨fun h => h f rfl, fun h f' hf => ?_⟩
  cases hf
  exact h

@[simp] theorem worded_failAt {rest : List Char} {c : Cause} :
    Worded P Q (failAt rest c : Except Failure α) ↔ c.Words P Q := worded_error

@[simp] theorem worded_failPast {rest : List Char} {c : Cause} :
    Worded P Q (failPast rest c : Except Failure α) ↔ c.Words P Q := worded_error

theorem Worded.map {x : Except Failure α} (h : Worded P Q x) (g : α → β) :
    Worded P Q (x.map g) := by
  cases x with
  | error f => exact worded_error.2 (h f rfl)
  | ok a => exact worded_ok (g a)

theorem Worded.bind {x : Except Failure α} {g : α → Except Failure β} (h : Worded P Q x)
    (hg : ∀ a, Worded P Q (g a)) : Worded P Q (x >>= g) := by
  cases x with
  | error f => exact worded_error.2 (h f rfl)
  | ok a => exact hg a

/-- A reading that ends with the fault of another one. -/
theorem Worded.error {x : Except Failure α} {f : Failure} (h : Worded P Q x) (hf : x = .error f) :
    Worded P Q (.error f : Except Failure β) := worded_error.2 (h f hf)

/-! ### Words, strings and numbers -/

section

variable (P Q) (cs : List Char)

theorem scanWord_worded (word : List Char) : Worded P Q (scanWord word cs) := by
  induction word generalizing cs with
  | nil => simp [scanWord]
  | cons w ws ih =>
    cases cs with
    | nil => simp [Cause.Words, scanWord, Cause.Words]
    | cons c cs =>
      rw [scanWord]
      split_ifs
      · exact ih cs
      · simp [Cause.Words]

theorem scanHex_worded : Worded P Q (scanHex cs) := by
  unfold scanHex
  split
  · simp
  · split_ifs <;> simp [Cause.Words]

theorem scanPairMark_worded (mark : Char) : Worded P Q (scanPairMark mark cs) := by
  unfold scanPairMark
  split
  · simp [Cause.Words]
  · split_ifs <;> simp [Cause.Words]

theorem scanUnicode_worded : Worded P Q (scanUnicode cs) := by
  refine (scanHex_worded P Q cs).bind fun (first, rest) => ?_
  dsimp only
  split_ifs
  · simp [Cause.Words]
  · refine (scanPairMark_worded P Q rest '\\').bind fun rest => ?_
    refine (scanPairMark_worded P Q rest 'u').bind fun rest => ?_
    refine (scanHex_worded P Q rest).bind fun (second, rest) => ?_
    dsimp only
    split_ifs
    · exact worded_ok _
    · simp [Cause.Words]
  · exact worded_ok _

theorem scanEscape_worded : Worded P Q (scanEscape cs) := by
  unfold scanEscape
  split
  · simp [Cause.Words]
  · split_ifs
    · exact scanUnicode_worded P Q _
    · split <;> simp [Cause.Words]

theorem scanStringChar_worded : Worded P Q (scanStringChar cs) := by
  unfold scanStringChar
  split
  · simp [Cause.Words]
  · split_ifs
    · simp
    · exact (scanEscape_worded P Q _).map _
    · simp [Cause.Words]
    · simp

theorem scanString_worded : Worded P Q (scanString cs) := by
  fun_induction scanString cs with
  | case1 cs e he => exact (scanStringChar_worded P Q cs).error he
  | case2 => simp
  | case3 cs c rest _ _ ih => exact ih.map _

theorem skipStringChar_worded : Worded P Q (skipStringChar cs) := by
  unfold skipStringChar
  split
  · simp [Cause.Words]
  · split_ifs
    · simp
    · split
      · simp [Cause.Words]
      · split_ifs
        · exact (scanHex_worded P Q _).map _
        · simp
        · simp [Cause.Words]
    · simp [Cause.Words]
    · simp

theorem skipString_worded : Worded P Q (skipString cs) := by
  fun_induction skipString cs with
  | case1 cs e he => exact (skipStringChar_worded P Q cs).error he
  | case2 => simp
  | case3 cs rest _ _ ih => exact ih

variable {atEnd : Cause} (he : atEnd.Words P Q)

include he

theorem digitMissing_worded : Worded P Q (digitMissing atEnd cs : Except Failure α) := by
  unfold digitMissing
  split_ifs
  · exact worded_failPast.2 he
  · simp [Cause.Words]

theorem scanWhole_worded : Worded P Q (scanWhole atEnd cs) := by
  unfold scanWhole
  split
  · exact digitMissing_worded P Q _ he
  · split_ifs
    · simp
    · simp [Cause.Words]
    · simp
    · exact digitMissing_worded P Q _ he

theorem scanDigits_worded : Worded P Q (scanDigits atEnd cs) := by
  unfold scanDigits
  split_ifs
  · exact digitMissing_worded P Q cs he
  · simp

theorem scanFraction_worded : Worded P Q (scanFraction atEnd cs) := by
  unfold scanFraction
  split
  · simp
  · split_ifs
    · exact scanDigits_worded P Q _ he
    · simp

theorem scanExponent_worded : Worded P Q (scanExponent atEnd cs) := by
  unfold scanExponent
  split
  · simp
  · split_ifs
    · exact (scanDigits_worded P Q _ he).map _
    · simp

theorem scanUnsigned_worded (negative : Bool) : Worded P Q (scanUnsigned atEnd negative cs) := by
  refine (scanWhole_worded P Q cs he).bind fun (whole, rest) => ?_
  refine (scanFraction_worded P Q rest he).bind fun (fraction, rest) => ?_
  exact (scanExponent_worded P Q rest he).bind fun _ => worded_ok _

theorem scanNumber_worded : Worded P Q (scanNumber atEnd cs) := by
  unfold scanNumber
  split
  · exact digitMissing_worded P Q _ he
  · split_ifs
    · exact scanUnsigned_worded P Q _ he true
    · exact scanUnsigned_worded P Q _ he false

end

section

variable (P Q) (cs : List Char)

theorem readNumber_worded : Worded P Q (readNumber cs) := by
  refine (scanNumber_worded P Q cs (by trivial)).bind fun (n, rest) => ?_
  dsimp only
  split
  · exact worded_ok _
  · simp [Cause.Words]

theorem readWord_worded (word : List Char) (head : Head) : Worded P Q (readWord word head cs) :=
  (scanWord_worded P Q cs word).map _

theorem readHead_worded : Worded P Q (readHead cs) := by
  unfold readHead
  split
  · simp [Cause.Words]
  · split_ifs
    · exact readWord_worded P Q _ _ _
    · exact readWord_worded P Q _ _ _
    · exact readWord_worded P Q _ _ _
    · exact (scanString_worded P Q _).map _
    · exact (readNumber_worded P Q _).map _
    · simp
    · simp
    · simp [Cause.Words]

/-! ### Punctuation -/

theorem nextElement_worded (first : Bool) : Worded P Q (nextElement first cs) := by
  unfold nextElement
  split
  · simp [Cause.Words]
  · split_ifs
    · simp
    · simp
    · split
      · simp [Cause.Words]
      · split_ifs <;> simp [Cause.Words]
    · simp [Cause.Words]

theorem closeList_worded : Worded P Q (closeList cs) := by
  unfold closeList
  split
  · simp [Cause.Words]
  · split_ifs
    · simp
    · dsimp only
      split_ifs <;> simp [Cause.Words]
    · simp [Cause.Words]

theorem nextKey_worded (first : Bool) : Worded P Q (nextKey first cs) := by
  unfold nextKey
  split
  · simp [Cause.Words]
  · split_ifs
    · simp
    · simp
    · simp [Cause.Words]
    · split
      · simp [Cause.Words]
      · split_ifs <;> simp [Cause.Words]
    · simp [Cause.Words]

theorem takeColon_worded : Worded P Q (takeColon cs) := by
  unfold takeColon
  split
  · simp [Cause.Words]
  · split_ifs <;> simp [Cause.Words]

/-! ### Values that nobody wants -/

theorem skipKey_worded : Worded P Q (skipKey cs) := by
  unfold skipKey
  split
  · simp [Cause.Words]
  · split_ifs
    · split
      · next he => exact (skipString_worded P Q _).error he
      · exact takeColon_worded P Q _
    · simp [Cause.Words]

theorem enterElement_worded (b : Bracket) : Worded P Q (enterElement b cs) := by
  cases b with
  | square => simp [enterElement]
  | curly => exact skipKey_worded P Q cs

theorem skipScalar_worded : Worded P Q (skipScalar cs) := by
  unfold skipScalar
  split
  · simp [Cause.Words]
  · split_ifs
    · exact (scanWord_worded P Q _ _).map _
    · exact (scanWord_worded P Q _ _).map _
    · exact (scanWord_worded P Q _ _).map _
    · exact (skipString_worded P Q _).map _
    · exact (scanNumber_worded P Q _ (by trivial)).map _
    · simp
    · simp
    · simp [Cause.Words]

theorem Bracket.words_unclosed (b : Bracket) : b.unclosed.Words P Q := by
  cases b <;> trivial

theorem Bracket.words_commaExpected (b : Bracket) : b.commaExpected.Words P Q := by
  cases b <;> trivial

theorem skipOpen_worded (inside : Bool) (brackets : List Bracket) :
    Worded P Q (skipOpen inside brackets cs) := by
  fun_induction skipOpen inside brackets cs with
  | case1 _ cs e he => exact (skipScalar_worded P Q _).error he
  | case2 => assumption
  | case3 => simp [Bracket.words_unclosed]
  | case4 => assumption
  | case5 => exact (enterElement_worded P Q _ _).error ‹_›
  | case6 => assumption
  | case7 => simp
  | case8 => simp [Bracket.words_unclosed]
  | case9 => assumption
  | case10 => exact (enterElement_worded P Q _ _).error ‹_›
  | case11 => assumption
  | case12 => simp [Bracket.words_commaExpected]

theorem skipValue_worded : Worded P Q (skipValue cs) := skipOpen_worded P Q cs true []

end

/-! ### Readers -/

variable {cs : List Char}

theorem mismatch_worded {want : String} (h : P want) :
    Worded P Q (mismatch want cs : Except Failure α) := by
  unfold mismatch
  split
  · next he => exact (readHead_worded P Q cs).error he
  · simp [Cause.Words, h]

/-- Whatever fault the reader ends with, its words have the property. -/
def Reader.Speaks (P Q : String → Prop) (r : Reader α) : Prop := ∀ cs, Worded P Q (r.run cs)

namespace Reader

variable {r : Reader α}

theorem Speaks.map (h : r.Speaks P Q) (g : α → β) : (r.map g).Speaks P Q := fun cs => (h cs).map _

theorem scalar_speaks {want : String} {accept : Head → Option (Except Cause α)}
    (opening : ∀ h, h.isOpening = true → accept h = none) (hwant : P want)
    (haccept : ∀ head c, accept head = some (.error c) → c.Words P Q) :
    (scalar want accept opening).Speaks P Q := by
  intro cs
  dsimp only [scalar]
  split
  · next he => exact (readHead_worded P Q _).error he
  · split
    · simp [Cause.Words, hwant]
    · next hc => exact worded_failAt.2 (haccept _ _ hc)
    · simp

theorem boolean_speaks (h : P "a boolean") : boolean.Speaks P Q :=
  scalar_speaks _ h fun head c hc => by cases head <;> simp at hc

theorem text_speaks (h : P "a string") : text.Speaks P Q :=
  scalar_speaks _ h fun head c hc => by cases head <;> simp at hc

theorem optionalPath_speaks (h : P "path string") : optionalPath.Speaks P Q :=
  scalar_speaks _ h fun head c hc => by cases head <;> simp at hc

theorem unit_speaks (h : P "unit") : unit.Speaks P Q :=
  scalar_speaks _ h fun head c hc => by cases head <;> simp at hc

theorem single_speaks (h : P "f32") : single.Speaks P Q :=
  scalar_speaks _ h fun head c hc => by cases head <;> simp at hc

theorem natural_speaks {want : String} {limit : Nat} (h : P want) :
    (natural want limit).Speaks P Q := by
  refine scalar_speaks _ h fun head c hc => ?_
  cases head with
  | integer i =>
    -- the only scalar whose value can be wrong
    dsimp only at hc
    split_ifs at hc
    · simp at hc
    · obtain rfl : Cause.wrongValue i want = c := by simpa using hc
      simp [Cause.Words, h]
  | _ => simp at hc

theorem word32_speaks (h : P "u32") : word32.Speaks P Q := (natural_speaks h).map _

theorem word64_speaks (h : P "u64") : word64.Speaks P Q := (natural_speaks h).map _

theorem count_speaks (h : P "usize") : count.Speaks P Q := (natural_speaks h).map _

theorem name_speaks {names : List (String × α)} (h : P "variant identifier")
    (hnames : ∀ n ∈ names, P n.1) (hQ : ∀ s, Q s) : (name names).Speaks P Q := by
  refine scalar_speaks _ h fun head c hc => ?_
  cases head with
  | text s =>
    dsimp only at hc
    split at hc
    · simp at hc
    · obtain rfl : Cause.unknownVariant s (names.map (·.1)) = c := by simpa using hc
      exact ⟨hQ s, by simpa using hnames⟩
  | _ => simp at hc

theorem variant_speaks {names : List (String × α)} (h : P "variant identifier") (hunit : P "unit")
    (hnames : ∀ n ∈ names, P n.1) (hQ : ∀ s, Q s) : (variant names).Speaks P Q := by
  intro cs
  dsimp only [variant, readSpelling]
  split
  · simp [Cause.Words]
  · split_ifs
    · unfold readVariant
      split
      · simp [Cause.Words]
      · split_ifs
        · simp [Cause.Words]
        · refine Worded.bind (name_speaks h hnames hQ _) fun v => ?_
          refine Worded.bind (takeColon_worded P Q v.2) fun rest => ?_
          refine Worded.bind (unit_speaks hunit rest) fun u => ?_
          dsimp only
          split
          · simp [Cause.Words]
          · split_ifs
            · exact worded_ok _
            · simp [Cause.Words]
        · simp [Cause.Words]
    · exact name_speaks h hnames hQ _
    · simp [Cause.Words]

theorem bracketed_speaks {want : String} {opening : Char}
    {body : List Char → Except Failure (α × List Char)}
    (hb : ∀ {cs a rest}, body cs = .ok (a, rest) → rest.length ≤ cs.length) (hwant : P want)
    (hbody : ∀ cs, Worded P Q (body cs)) : (bracketed want opening body hb).Speaks P Q := by
  intro cs
  dsimp only [bracketed]
  split
  · simp [Cause.Words]
  · split_ifs
    · exact hbody _
    · exact mismatch_worded hwant

theorem list_speaks (hwant : P "a sequence") (h : r.Speaks P Q) : (list r).Speaks P Q := by
  refine bracketed_speaks _ hwant fun cs => ?_
  fun_induction readElements r true cs with
  | case1 first cs e he => exact (nextElement_worded P Q cs first).error he
  | case2 => simp
  | case3 first cs rest _ e he => exact (h rest).error he
  | case4 first cs rest _ a rest' _ _ _ ih => exact ih.map _

theorem pair_speaks {s : Reader β} (hwant : P pairWant) (hr : r.Speaks P Q) (hs : s.Speaks P Q) :
    (pair r s).Speaks P Q := by
  refine bracketed_speaks _ hwant fun cs => ?_
  refine (nextElement_worded P Q cs true).bind fun (more, rest) => ?_
  dsimp only
  split_ifs
  · refine (hr rest).bind fun (a, rest) => ?_
    refine (nextElement_worded P Q rest false).bind fun (more, rest) => ?_
    dsimp only
    split_ifs
    · refine (hs rest).bind fun (b, rest) => ?_
      exact (closeList_worded P Q rest).bind fun _ => worded_ok _
    · simp [Cause.Words, hwant]
  · simp [Cause.Words, hwant]

/-- A document that is not decoded is refused in the words of the reader. -/
theorem Speaks.decode (h : r.Speaks P Q) {document : String} {e : DecodeError}
    (he : r.decode document = .error e) : e.cause.Words P Q := by
  unfold Reader.decode at he
  cases hr : r.run document.toList with
  | error f =>
    obtain rfl : f.locate document.toList = e := by simpa [hr, Except.mapError] using he
    exact h _ f hr
  | ok v =>
    cases hb : skipBlanks v.2 with
    | nil => simp [hr, hb, Except.mapError] at he
    | cons c more =>
      obtain rfl : Failure.locate _ document.toList = e := by
        simpa [hr, hb, Except.mapError, failPast] using he
      simp [Failure.locate, Cause.Words]

end Reader

/-! ### Records -/

theorem Field.of_speaks {name : String} {required : Bool} {r : Reader β} {set : β → α → α}
    (hname : P name) (h : r.Speaks P Q) :
    P (Field.of name required r set).name ∧ (Field.of name required r set).reader.Speaks P Q :=
  ⟨hname, h.map set⟩

namespace Record

variable {R : Record α} (hwant : P R.want) (hlength : P R.wantLength)
  (hfields : ∀ f ∈ R.fields, P f.name ∧ f.reader.Speaks P Q)

include hfields

theorem readMember_worded (key : String) (draft : α) (given : List String) (cs : List Char) :
    Worded P Q (R.readMember key draft given cs) := by
  unfold readMember
  split
  · split
    · next he => exact (takeColon_worded P Q cs).error he
    · exact (skipValue_worded P Q _).map _
  · next f hf =>
    obtain ⟨hname, hreader⟩ := hfields f (List.mem_of_find?_eq_some hf)
    split_ifs
    · simp [Cause.Words, hname]
    · split
      · next he => exact (takeColon_worded P Q cs).error he
      · exact (hreader _).map _

theorem finish_worded (draft : α) (given : List String) (rest : List Char) :
    Worded P Q (R.finish draft given rest) := by
  unfold finish
  split
  · next f hf =>
    obtain ⟨hname, -⟩ := hfields f (List.mem_of_find?_eq_some hf)
    simp [Cause.Words, hname]
  · simp

theorem readMembers_worded (first : Bool) (draft : α) (given : List String) (cs : List Char) :
    Worded P Q (R.readMembers first draft given cs) := by
  fun_induction R.readMembers first draft given cs with
  | case1 first _ _ cs e he => exact (nextKey_worded P Q cs first).error he
  | case2 => exact finish_worded hfields _ _ _
  | case3 _ _ _ _ rest _ e he => exact (scanString_worded P Q rest).error he
  | case4 => next he => exact (readMember_worded hfields _ _ _ _).error he
  | case5 => assumption

omit hfields in
include hlength in
theorem readFields_worded {fs : List (Field α)} (hfs : ∀ f ∈ fs, f.reader.Speaks P Q) (first : Bool)
    (i : Nat) (draft : α) (cs : List Char) : Worded P Q (R.readFields first i draft fs cs) := by
  induction fs generalizing first i draft cs with
  | nil => exact (closeList_worded P Q cs).map _
  | cons f fs ih =>
    obtain ⟨hf, hfs⟩ := List.forall_mem_cons.1 hfs
    unfold readFields
    split
    · next he => exact (nextElement_worded P Q cs first).error he
    · split
      · simp [Cause.Words, hlength]
      · simp
    · split
      · next he => exact (hf _).error he
      · exact ih hfs _ _ _ _

include hwant hlength in
/-- **A record speaks in its own words and in those of its fields.** -/
theorem reader_speaks : R.reader.Speaks P Q := by
  intro cs
  dsimp only [reader]
  split
  · simp [Cause.Words]
  · split_ifs
    · exact readMembers_worded hfields _ _ _ _
    · exact readFields_worded hlength (fun f hf => (hfields f hf).2) _ _ _ _
    · exact mismatch_worded hwant

end Record

end ShaperDash.Json
