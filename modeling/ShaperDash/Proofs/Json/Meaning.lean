import ShaperDash.Json.Variant
import ShaperDash.Proofs.Json.Closed
import ShaperDash.Proofs.Json.Passing

/-!
# What readers make of values

A reader is tied to a function of values that says what it makes of each, or that it makes nothing
of it.  The text of a value then matters no longer.

* `Reader.Denotes` : the reader gives what the function gives, on every text of a value.
* `Reader.boolean_denotes`, …, `Reader.variant_denotes` : the functions of the readers, one each.
* `Reader.Denotes.decode_eq_ok_iff` : **a document is decoded as its value says**.
-/

namespace ShaperDash.Json

variable {α β : Type} {cs rest b : List Char}

/-! ### Numbers -/

/-- The head of a number. -/
def Number.head : Number → Head
  | .integer i => .integer i
  | .floating d => .floating d

@[simp] theorem Number.head_integer (i : Int) : (Number.integer i).head = .integer i := rfl

@[simp] theorem Number.head_floating (d : Datum) : (Number.floating d).head = .floating d := rfl

/-- A number, rounded to 32 bits. -/
def Number.single : Number → Datum
  | .integer i => binary32.ofInt i
  | .floating d => binary32.convert d

/-- The number that digits spell behind others that spell `n`. -/
def ofDigits (n : Nat) (ds : List Nat) : Nat := ds.foldl (fun n d => n * 10 + d) n

/-- The natural number that a numeral spells digit by digit, unless it is beyond `limit`. -/
def Numeral.natural? (limit : Nat) (n : Numeral) : Option Nat :=
  if n.negative = false ∧ n.isWhole = true ∧ ofDigits 0 n.whole ≤ limit then
    some (ofDigits 0 n.whole)
  else none

theorem le_ofDigits (n : Nat) (ds : List Nat) : n ≤ ofDigits n ds := by
  induction ds generalizing n with
  | nil => exact Nat.le_refl n
  | cons d ds ih =>
    have : n * 10 + d ≤ ofDigits n (d :: ds) := ih _
    omega

theorem absorb_of_le {limit n : Nat} {ds : List Nat} (h : ofDigits n ds ≤ limit) :
    absorb limit n ds = (ofDigits n ds, []) := by
  induction ds generalizing n with
  | nil => rfl
  | cons d ds ih =>
    have hd : n * 10 + d ≤ limit := (le_ofDigits _ ds).trans h
    rw [absorb, if_pos hd]
    exact ih h

theorem absorb_of_lt {limit n : Nat} {ds : List Nat} (hn : n ≤ limit)
    (h : limit < ofDigits n ds) : (absorb limit n ds).2 ≠ [] := by
  induction ds generalizing n with
  | nil => exact absurd h (Nat.not_lt.2 hn)
  | cons d ds ih =>
    rw [absorb]
    split
    · next hd => exact ih hd h
    · simp

/-- A numeral stands for the natural number that its digits spell if they fit 64 bits and nothing
else belongs to it, and otherwise for no natural number. -/
theorem Numeral.value_eq_integer_iff {n : Numeral} {i : Int} (hi : 0 ≤ i) :
    n.value = .ok (.integer i) ↔
      n.negative = false ∧ n.isWhole = true ∧ ofDigits 0 n.whole ≤ maxWord ∧
        i = ofDigits 0 n.whole := by
  unfold value
  cases hw : n.isWhole with
  | false => cases n.toDatum <;> simp [Except.map]
  | true =>
    by_cases hle : ofDigits 0 n.whole ≤ maxWord
    · rw [absorb_of_le hle]
      cases hneg : n.negative with
      | false => simp [hle, eq_comm]
      | true =>
        simp only [if_true]
        split <;> simp; omega
    · -- some digits are left over, so the number is not read as an integer
      have hne := absorb_of_lt (Nat.zero_le maxWord) (Nat.lt_of_not_le hle)
      obtain ⟨m, d, ds, hd⟩ : ∃ m d ds, absorb maxWord 0 n.whole = (m, d :: ds) := by
        obtain ⟨d, ds, hd⟩ := List.exists_cons_of_ne_nil hne
        exact ⟨_, d, ds, Prod.ext rfl hd⟩
      rw [hd]
      cases n.toDatum <;> simp [Except.map, hle]

/-! ### Scalars -/

/-- What stands where a value begins, unless that cannot be read. -/
def Value.head? : Value → Option Head
  | .null => some .null
  | .boolean b => some (.boolean b)
  | .number n => n.value.toOption.map Number.head
  | .text us => (charactersOf us).map fun cs => .text (String.ofList cs)
  | .list _ => some .sequence
  | .object _ => some .map

theorem readHead_spelled {v : Value} (h : Spells (.value v) cs) (hr : Delimited rest) :
    (readHead (cs ++ rest)).toOption =
      v.head?.map fun head => (head, if head.isOpening then cs ++ rest else rest) := by
  cases h with
  | null => rfl
  | yes => rfl
  | no => rfl
  | list _ => rfl
  | object _ => rfl
  | @text us cs ht =>
    have hs : (scanString (cs ++ '"' :: rest)).toOption = _ := scanString_spelled ht
    simp only [List.cons_append, List.append_assoc, List.nil_append, readHead]
    simp only [show ¬ '"' = 'n' by decide, show ¬ '"' = 't' by decide, show ¬ '"' = 'f' by decide,
      if_false, if_true, toOption_map, hs, Value.head?]
    cases charactersOf us <;> rfl
  | @number n _ hn =>
    have hs := readNumber_spelled hn hr
    obtain ⟨c, r, rfl, hc⟩ := hn.opens
    obtain ⟨h₁, h₂, h₃, h₄, -⟩ := hc.ne
    have hc : c = '-' ∨ isDigit c = true := hc
    rw [List.cons_append] at hs ⊢
    simp only [readHead, if_neg h₁, if_neg h₂, if_neg h₃, if_neg h₄, if_pos hc, toOption_map, hs,
      Value.head?]
    cases n.value with
    | error => rfl
    | ok v => cases v <;> rfl

namespace Reader

/-- On every text of a value the reader gives what `f` makes of the value, and leaves what stands
behind the text; where `f` makes nothing of the value, the reader refuses it. -/
def Denotes (r : Reader α) (f : Value → Option α) : Prop :=
  ∀ v b cs rest, Blanks b → Spells (.value v) cs → Delimited rest →
    (r.run (b ++ (cs ++ rest))).toOption = (f v).map (·, rest)

theorem Denotes.map {r : Reader α} {f : Value → Option α} (h : r.Denotes f) (g : α → β) :
    (r.map g).Denotes fun v => (f v).map g := by
  intro v b cs rest hb hv hr
  simp only [Reader.map, toOption_map, h v b cs rest hb hv hr]
  cases f v <;> rfl

/-- A document is decoded as its value says, with blanks around it or without. -/
theorem Denotes.decode_eq_ok_iff {r : Reader α} {f : Value → Option α} (h : r.Denotes f)
    {v : Value} {document : String} (hv : v.SpelledBy document) {a : α} :
    r.decode document = .ok a ↔ f v = some a := by
  obtain ⟨b, cs, b', hb, hcs, hb', hd⟩ := hv
  have hrun := h v b cs b' hb hcs (delimited_of_blanks hb')
  rw [Reader.decode_eq_ok_iff, hd]
  simp only [← toOption_eq_some_iff, hrun]
  constructor
  · rintro ⟨rest, heq, -⟩
    cases hf : f v <;> simp_all
  · intro hf
    exact ⟨b', by rw [hf]; rfl, hb'⟩

theorem scalar_denotes {want : String} {accept : Head → Option (Except Cause α)}
    {opening : ∀ h, h.isOpening = true → accept h = none} :
    (scalar want accept opening).Denotes fun v =>
      v.head?.bind fun head => (accept head).bind Except.toOption := by
  intro v b cs rest hb hv hr
  have hh := readHead_spelled hv hr
  simp only [scalar, hv.skipBlanks hb]
  cases hhead : v.head? with
  | none =>
    rw [hhead] at hh
    cases hrd : readHead (cs ++ rest) with
    | error e => rfl
    | ok p => simp [hrd] at hh
  | some head =>
    rw [hhead, Option.map_some, toOption_eq_some_iff] at hh
    simp only [hh, Option.bind_some]
    cases ha : accept head with
    | none => rfl
    | some x =>
      -- an accepted head is no bracket, so it has been read to its end
      have ho : head.isOpening = false := by
        cases ho : head.isOpening with
        | false => rfl
        | true => simp [opening head ho] at ha
      cases x with
      | error e => rfl
      | ok a => simp [ho, Except.toOption]

theorem scalar_denotes_of {want : String} {accept : Head → Option (Except Cause α)}
    {opening : ∀ h, h.isOpening = true → accept h = none} {f : Value → Option α}
    (h : ∀ v, f v = v.head?.bind fun head => (accept head).bind Except.toOption) :
    (scalar want accept opening).Denotes f := by
  rw [funext h]
  exact scalar_denotes

end Reader

/-! What the readers of scalars make of values. -/

namespace Value

def boolean? : Value → Option Bool
  | .boolean b => some b
  | _ => none

def text? : Value → Option String
  | .text us => (charactersOf us).map String.ofList
  | _ => none

def optionalPath? : Value → Option (Option String)
  | .null => some none
  | .text us => (charactersOf us).map fun cs => some (String.ofList cs)
  | _ => none

def unit? : Value → Option Unit
  | .null => some ()
  | _ => none

def natural? (limit : Nat) : Value → Option Nat
  | .number n => n.natural? limit
  | _ => none

def word32? (v : Value) : Option UInt32 := (v.natural? (UInt32.size - 1)).map UInt32.ofNat

def word64? (v : Value) : Option UInt64 := (v.natural? (UInt64.size - 1)).map UInt64.ofNat

def single? : Value → Option Datum
  | .number n => n.value.toOption.map Number.single
  | _ => none

end Value

namespace Reader

theorem boolean_denotes : boolean.Denotes Value.boolean? := by
  refine scalar_denotes_of fun v => ?_
  cases v with
  | number n => rcases hn : n.value with _ | i | d <;> simp [Value.boolean?, Value.head?, hn]
  | text us => cases h : charactersOf us <;> simp [Value.boolean?, Value.head?, h]
  | _ => rfl

theorem text_denotes : text.Denotes Value.text? := by
  refine scalar_denotes_of fun v => ?_
  cases v with
  | number n => rcases hn : n.value with _ | i | d <;> simp [Value.text?, Value.head?, hn]
  | text us => cases h : charactersOf us <;> simp [Value.text?, Value.head?, h]
  | _ => rfl

theorem optionalPath_denotes : optionalPath.Denotes Value.optionalPath? := by
  refine scalar_denotes_of fun v => ?_
  cases v with
  | number n => rcases hn : n.value with _ | i | d <;> simp [Value.optionalPath?, Value.head?, hn]
  | text us => cases h : charactersOf us <;> simp [Value.optionalPath?, Value.head?, h]
  | _ => rfl

theorem unit_denotes : unit.Denotes Value.unit? := by
  refine scalar_denotes_of fun v => ?_
  cases v with
  | number n => rcases hn : n.value with _ | i | d <;> simp [Value.unit?, Value.head?, hn]
  | text us => cases h : charactersOf us <;> simp [Value.unit?, Value.head?, h]
  | _ => rfl

theorem single_denotes : single.Denotes Value.single? := by
  refine scalar_denotes_of fun v => ?_
  cases v with
  | number n =>
    rcases hn : n.value with _ | i | d <;> simp [Value.single?, Value.head?, hn, Number.single]
  | text us => cases h : charactersOf us <;> simp [Value.single?, Value.head?, h]
  | _ => rfl

/-- The numbers that a reader of natural numbers accepts are those spelled digit by digit. -/
theorem natural?_eq {n : Numeral} {limit : Nat} (hl : limit ≤ maxWord) :
    n.natural? limit = n.value.toOption.bind fun
      | .integer i => if 0 ≤ i ∧ i ≤ limit then some i.toNat else none
      | .floating _ => none := by
  unfold Numeral.natural?
  split_ifs with h
  · obtain ⟨hneg, hw, hle⟩ := h
    have hv : n.value = .ok (.integer (ofDigits 0 n.whole)) :=
      (Numeral.value_eq_integer_iff (Int.natCast_nonneg _)).2 ⟨hneg, hw, hle.trans hl, rfl⟩
    simp [hv, hle]
  · rcases hv : n.value with _ | i | d
    · rfl
    · simp only [ok_toOption, Option.bind_some]
      rw [if_neg]
      rintro ⟨hi, hle⟩
      obtain ⟨hneg, hw, -, rfl⟩ := (Numeral.value_eq_integer_iff hi).1 hv
      exact h ⟨hneg, hw, Int.ofNat_le.1 hle⟩
    · rfl

theorem natural_denotes {want : String} {limit : Nat} (hl : limit ≤ maxWord) :
    (natural want limit).Denotes (Value.natural? limit) := by
  refine scalar_denotes_of fun v => ?_
  cases v with
  | number n =>
    rw [Value.natural?, natural?_eq hl, Value.head?]
    rcases n.value with _ | i | d
    · rfl
    · simp only [ok_toOption, Option.bind_some, Option.map_some, Number.head_integer]
      split_ifs <;> rfl
    · rfl
  | text us => cases h : charactersOf us <;> simp [Value.natural?, Value.head?, h]
  | _ => rfl

theorem word32_denotes : word32.Denotes Value.word32? :=
  (natural_denotes (by decide)).map UInt32.ofNat

theorem word64_denotes : word64.Denotes Value.word64? :=
  (natural_denotes (by decide)).map UInt64.ofNat

theorem count_denotes : count.Denotes Value.word64? :=
  (natural_denotes (by decide)).map UInt64.ofNat

end Reader

/-! ### Punctuation -/

theorem nextElement_last {first : Bool} (hb : Blanks b) :
    nextElement first (b ++ ']' :: rest) = .ok (false, ']' :: rest) := by
  simp [nextElement, skipBlanks_mark hb]

theorem nextElement_element {first : Bool} {v : Value} {s : List Char} (hs : Separator first s)
    (hb : Blanks b) (hv : Spells (.value v) cs) :
    nextElement first (s ++ (b ++ (cs ++ rest))) = .ok (true, cs ++ rest) := by
  have hskip := hv.skipBlanks hb rest
  obtain ⟨c, r, rfl, -, hc, -⟩ := hv.opens
  rw [List.cons_append] at hskip ⊢
  cases hs with
  | first =>
    rw [List.nil_append, nextElement, hskip]
    simp [hc]
  | comma hb' =>
    simp [nextElement, skipBlanks_mark hb', hskip, hc]

theorem nextKey_last {first : Bool} (hb : Blanks b) :
    nextKey first (b ++ '}' :: rest) = .ok (false, '}' :: rest) := by
  simp [nextKey, skipBlanks_mark hb]

theorem nextKey_member {first : Bool} {s : List Char} (hs : Separator first s) (hb : Blanks b) :
    nextKey first (s ++ (b ++ '"' :: rest)) = .ok (true, rest) := by
  cases hs with
  | first => simp [nextKey, skipBlanks_mark hb]
  | comma hb' => simp [nextKey, skipBlanks_mark hb, skipBlanks_mark hb']

/-- A list that has all the elements it should have ends here. -/
theorem closeList_spelled {first : Bool} {vs : List Value} (h : Spells (.elements first vs) cs) :
    (closeList (cs ++ ']' :: rest)).toOption = if vs.isEmpty then some rest else none := by
  cases h with
  | noElement hb => simp [closeList, skipBlanks_mark hb]
  | @element _ _ _ _ _ cs ds hs hb hv _ =>
    cases hs with
    | first =>
      have hskip := hv.skipBlanks hb (ds ++ ']' :: rest)
      obtain ⟨c, r, rfl, -, hl, -, hc⟩ := hv.opens
      rw [List.cons_append] at hskip
      simp [closeList, hskip, hl, hc]
    | comma hb => simp [closeList, skipBlanks_mark hb]

/-- Only a list begins with a square bracket, and only an object with a curly one. -/
theorem Spells.bracket {v : Value} (h : Spells (.value v) cs) :
    ∃ c r, cs = c :: r ∧ (c = '[' → ∃ vs, v = .list vs) ∧ (c = '{' → ∃ ms, v = .object ms) := by
  cases h with
  | number hn =>
    obtain ⟨c, r, rfl, hc⟩ := hn.opens
    obtain ⟨-, -, -, -, hl, ho⟩ := hc.ne
    exact ⟨c, r, rfl, fun h => absurd h hl, fun h => absurd h ho⟩
  | list => exact ⟨_, _, rfl, fun _ => ⟨_, rfl⟩, by simp⟩
  | object => exact ⟨_, _, rfl, by simp, fun _ => ⟨_, rfl⟩⟩
  | null => exact ⟨_, _, rfl, by simp, by simp⟩
  | yes => exact ⟨_, _, rfl, by simp, by simp⟩
  | no => exact ⟨_, _, rfl, by simp, by simp⟩
  | text => exact ⟨_, _, rfl, by simp, by simp⟩

/-! ### Lists and pairs -/

namespace Value

/-- The values of the elements of a list. -/
def list? (f : Value → Option α) : Value → Option (List α)
  | .list vs => vs.mapM f
  | _ => none

/-- The values of the two elements of a list. -/
def pair? (f : Value → Option α) (g : Value → Option β) : Value → Option (α × β)
  | .list [v, w] => (f v).bind fun a => (g w).map fun b => (a, b)
  | _ => none

end Value

theorem mismatch_toOption {want : String} :
    (mismatch want cs : Except Failure α).toOption = none := by
  cases h : (mismatch want cs : Except Failure α) with
  | error => rfl
  | ok a => exact absurd h mismatch_ne_ok

namespace Reader

/-- A reader of lists is known by what it does behind the opening bracket. -/
theorem bracketed_denotes {want : String} {body : List Char → Except Failure (α × List Char)}
    {hl : ∀ {cs a rest}, body cs = .ok (a, rest) → rest.length ≤ cs.length}
    {f : Value → Option α}
    (h : ∀ vs cs rest, Spells (.elements true vs) cs →
      (body (cs ++ ']' :: rest)).toOption = (f (.list vs)).map (·, rest))
    (hf : ∀ v, (∀ vs, v ≠ .list vs) → f v = none) : (bracketed want '[' body hl).Denotes f := by
  intro v b cs rest hb hv _
  have hskip := hv.skipBlanks hb rest
  obtain ⟨c, r, rfl, hlist, -⟩ := hv.bracket
  rw [List.cons_append] at hskip ⊢
  simp only [bracketed, hskip]
  by_cases hc : c = '['
  · obtain ⟨vs, rfl⟩ := hlist hc
    cases hv with
    | list hvs => simpa using h vs _ rest hvs
  · -- nothing else begins with this bracket
    rw [if_neg hc, mismatch_toOption, hf v]
    · rfl
    · rintro vs rfl
      cases hv
      exact hc rfl

theorem readElements_spelled {item : Reader α} {f : Value → Option α} (hi : item.Denotes f)
    {first : Bool} {vs : List Value} (h : Spells (.elements first vs) cs) :
    (readElements item first (cs ++ ']' :: rest)).toOption = (vs.mapM f).map (·, rest) := by
  induction vs generalizing first cs with
  | nil =>
    cases h with
    | noElement hb => rw [readElements_close (nextElement_last hb)]; rfl
  | cons v vs ih =>
    cases h with
    | @element _ _ _ s b cs ds hs hb hv hvs =>
      have hrun := hi v [] cs _ blanks_nil hv (hvs.delimited_elements rest)
      rw [List.nil_append] at hrun
      simp only [List.append_assoc]
      rw [readElements_item (nextElement_element hs hb hv)]
      simp only [toOption_bind, hrun, toOption_map, List.mapM_cons]
      cases f v with
      | none => rfl
      | some a =>
        simp only [Option.map_some, Option.bind_some, ih hvs]
        cases vs.mapM f <;> rfl

theorem list_denotes {item : Reader α} {f : Value → Option α} (hi : item.Denotes f) :
    (list item).Denotes (Value.list? f) := by
  refine bracketed_denotes (fun vs cs rest hvs => readElements_spelled hi hvs) fun v hv => ?_
  cases v with
  | list vs => exact absurd rfl (hv vs)
  | _ => rfl

theorem readPair_spelled {r : Reader α} {s : Reader β} {f : Value → Option α}
    {g : Value → Option β} (hr : r.Denotes f) (hs : s.Denotes g) {vs : List Value}
    (h : Spells (.elements true vs) cs) :
    (readPair r s (cs ++ ']' :: rest)).toOption =
      (Value.pair? f g (.list vs)).map (·, rest) := by
  cases h with
  | noElement hb =>
    simp only [readPair, nextElement_last hb]
    rfl
  | @element _ v vs _ b cs ds hsep hb hv hvs =>
    have hrun := hr v [] cs _ blanks_nil hv (hvs.delimited_elements rest)
    rw [List.nil_append] at hrun
    simp only [List.append_assoc, readPair, nextElement_element hsep hb hv, ok_bind, if_true,
      toOption_bind, hrun]
    cases hfv : f v with
    | none =>
      rcases vs with _ | ⟨w, _ | _⟩ <;> simp [Value.pair?, hfv]
    | some a =>
      simp only [Option.map_some, Option.bind_some]
      -- the list may end before its second element, or go on behind it
      cases hvs with
      | noElement hb' =>
        simp only [nextElement_last hb']
        rfl
      | @element _ w ws _ b' cs' ds' hsep' hb' hw hws =>
        have hrun' := hs w [] cs' _ blanks_nil hw (hws.delimited_elements rest)
        rw [List.nil_append] at hrun'
        simp only [List.append_assoc, nextElement_element hsep' hb' hw, ok_toOption,
          Option.bind_some, if_true, toOption_bind, hrun']
        cases hgw : g w with
        | none => cases ws <;> simp [Value.pair?, hfv, hgw]
        | some b =>
          simp only [Option.map_some, Option.bind_some, closeList_spelled hws]
          cases ws <;> simp [Value.pair?, hfv, hgw]

theorem pair_denotes {r : Reader α} {s : Reader β} {f : Value → Option α}
    {g : Value → Option β} (hr : r.Denotes f) (hs : s.Denotes g) :
    (pair r s).Denotes (Value.pair? f g) := by
  refine bracketed_denotes (fun vs cs rest hvs => readPair_spelled hr hs hvs) fun v hv => ?_
  cases v with
  | list vs => exact absurd rfl (hv vs)
  | _ => rfl

end Reader

/-! ### Named variants -/

namespace Value

/-- What a name stands for. -/
def name? (names : List (String × α)) : Value → Option α
  | .text us => (charactersOf us).bind fun cs => names.lookup (String.ofList cs)
  | _ => none

/-- What a name stands for that is spelled as a string or as the only key of an object. -/
def variant? (names : List (String × α)) : Value → Option α
  | .text us => name? names (.text us)
  | .object [(us, .null)] => name? names (.text us)
  | _ => none

end Value

namespace Reader

theorem name_denotes (names : List (String × α)) :
    (name names).Denotes (Value.name? names) := by
  refine scalar_denotes_of fun v => ?_
  cases v with
  | number n => rcases hn : n.value with _ | i | d <;> simp [Value.name?, Value.head?, hn]
  | text us =>
    cases h : charactersOf us with
    | none => simp [Value.name?, Value.head?, h]
    | some cs =>
      simp only [Value.name?, Value.head?, h, Option.bind_some, Option.map_some]
      cases names.lookup (String.ofList cs) <;> rfl
  | _ => rfl

theorem name_text (names : List (String × α)) {us : Units} (h : SpellsText us cs)
    (hr : Delimited rest) :
    ((name names).run ('"' :: (cs ++ '"' :: rest))).toOption =
      (Value.name? names (.text us)).map (·, rest) := by
  simpa using name_denotes names _ [] _ rest blanks_nil (.text h) hr

theorem closeVariant_spelled {a : α} {v : Value} {ms : List (Units × Value)} {b' ds : List Char}
    (hb : Blanks b) (hb' : Blanks b') (hv : Spells (.value v) cs)
    (hms : Spells (.members false ms) ds) :
    (closeVariant a (b ++ ':' :: (b' ++ (cs ++ (ds ++ '}' :: rest))))).toOption =
      if ms.isEmpty then v.unit?.map fun _ => (a, rest) else none := by
  have hrun := unit_denotes v b' cs _ hb' hv (hms.delimited_members rest)
  simp only [closeVariant, takeColon_spelled hb, ok_bind, toOption_bind, hrun]
  cases hu : v.unit? with
  | none => cases ms <;> rfl
  | some u =>
    simp only [Option.map_some, Option.bind_some]
    cases hms with
    | noMember hb => simp [skipBlanks_mark hb]
    | member hs _ _ _ _ _ _ =>
      cases hs with
      | comma hb => simp [skipBlanks_mark hb]

theorem readVariant_spelled (names : List (String × α)) {ms : List (Units × Value)}
    (h : Spells (.members true ms) cs) :
    (readVariant names (cs ++ '}' :: rest)).toOption =
      (Value.variant? names (.object ms)).map (·, rest) := by
  cases h with
  | noMember hb => simp [readVariant, skipBlanks_mark hb, Value.variant?]
  | @member _ us v ms _ b₁ ks b₂ b₃ cs ds hs hb₁ hk hb₂ hb₃ hv hms =>
    cases hs with
    | first =>
      have hd : Delimited (b₂ ++ ':' :: (b₃ ++ (cs ++ (ds ++ '}' :: rest)))) :=
        .blanks hb₂ (delimited_cons (.inr (.inl rfl)))
      simp only [List.nil_append, List.append_assoc, List.cons_append, readVariant,
        skipBlanks_mark hb₁, isBlank_marks, show ¬ '"' = '}' by decide, if_false, if_true,
        toOption_bind, name_text names hk hd]
      cases hname : Value.name? names (.text us) with
      | none => cases v <;> cases ms <;> simp [Value.variant?, hname]
      | some a =>
        simp only [Option.map_some, Option.bind_some, closeVariant_spelled hb₂ hb₃ hv hms]
        cases v <;> cases ms <;> simp [Value.variant?, Value.unit?, hname]

theorem variant_denotes (names : List (String × α)) :
    (variant names).Denotes (Value.variant? names) := by
  intro v b cs rest hb hv hr
  have hskip := hv.skipBlanks hb rest
  cases hv with
  | text ht =>
    simp only [List.cons_append, List.append_assoc, List.nil_append] at hskip ⊢
    simp only [variant, readSpelling, hskip, show ¬ '"' = '{' by decide, if_false, if_true]
    exact name_text names ht hr
  | object hms =>
    simp only [List.cons_append, List.append_assoc, List.nil_append] at hskip ⊢
    simp only [variant, readSpelling, hskip, if_true]
    exact readVariant_spelled names hms
  | number hn =>
    obtain ⟨c, r, rfl, hc⟩ := hn.opens
    obtain ⟨-, -, -, hq, -, ho⟩ := hc.ne
    rw [List.cons_append] at hskip ⊢
    simp only [variant, readSpelling, hskip, if_neg ho, if_neg hq]
    rfl
  | _ =>
    -- a name would begin with a quotation mark or a curly bracket
    rw [List.cons_append] at hskip ⊢
    simp only [variant, readSpelling, hskip]
    rfl

end Reader

end ShaperDash.Json
