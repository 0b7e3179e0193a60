import Mathlib.Data.List.Basic
import ShaperDash.Json.Number

/-!
# The grammar of documents

A `Value` is what a document says, without its spelling: no blanks, no escapes, members in their
order.  `Spells` tells which texts spell a value.  A string is known by its UTF-16 units, so that
`\u` escapes which do not pair up are part of the grammar; `charactersOf` says what characters the
units stand for, if they do pair up.  A number is known by its digits.
-/

namespace ShaperDash.Json

/-! ### Values -/

/-- The UTF-16 units of a string; surrogates need not pair up. -/
abbrev Units := List Nat

/-- What a document says. -/
inductive Value
  | null
  | boolean (b : Bool)
  | number (n : Numeral)
  | text (units : Units)
  | list (items : List Value)
  | object (members : List (Units × Value))

/-- The units of a character: itself, or a pair of surrogates. -/
def unitsOf (c : Char) : Units :=
  if c.toNat < 0x10000 then [c.toNat]
  else [0xD800 + (c.toNat - 0x10000) / 0x400, 0xDC00 + (c.toNat - 0x10000) % 0x400]

/-- The character of a pair of surrogates. -/
def pairedCharacter (leading trailing : Nat) : Char :=
  Char.ofNat (0x10000 + (leading - 0xD800) * 0x400 + (trailing - 0xDC00))

/-- The characters that units stand for, unless a surrogate is unpaired. -/
def charactersOf : Units → Option (List Char)
  | [] => some []
  | u :: us =>
    if isTrailing u then none
    else if isLeading u then
      -- the second half of the pair comes next, or the first half is unpaired
      match us with
      | [] => none
      | v :: us => if isTrailing v then (charactersOf us).map (pairedCharacter u v :: ·) else none
    else (charactersOf us).map (Char.ofNat u :: ·)

/-- The units are those of the characters of a name. -/
def Names (units : Units) (name : String) : Prop := charactersOf units = some name.toList

instance (units : Units) (name : String) : Decidable (Names units name) :=
  inferInstanceAs (Decidable (charactersOf units = some name.toList))

/-! ### Spelling -/

/-- A text of nothing but blanks. -/
def Blanks (cs : List Char) : Prop := ∀ c ∈ cs, isBlank c = true

instance (cs : List Char) : Decidable (Blanks cs) :=
  List.decidableBAll (fun c => isBlank c = true) cs

/-- A text of characters that need no escape in a string. -/
def Plain (cs : List Char) : Prop := ∀ c ∈ cs, ' ' ≤ c ∧ c ≠ '"' ∧ c ≠ '\\'

instance (cs : List Char) : Decidable (Plain cs) :=
  List.decidableBAll (fun c => ' ' ≤ c ∧ c ≠ '"' ∧ c ≠ '\\') cs

/-- The texts of a string between its quotation marks. -/
inductive SpellsText : Units → List Char → Prop
  | nil : SpellsText [] []
  | plain {c : Char} {us : Units} {cs : List Char} :
      ' ' ≤ c → c ≠ '"' → c ≠ '\\' → SpellsText us cs → SpellsText (unitsOf c ++ us) (c :: cs)
  | letter {c d : Char} {us : Units} {cs : List Char} :
      letterEscape c = some d → SpellsText us cs → SpellsText (unitsOf d ++ us) ('\\' :: c :: cs)
  | unit {a b c d : Char} {i j k l : Nat} {us : Units} {cs : List Char} :
      hexValue a = some i → hexValue b = some j → hexValue c = some k → hexValue d = some l →
      SpellsText us cs →
      SpellsText ((((i * 16 + j) * 16 + k) * 16 + l) :: us) ('\\' :: 'u' :: a :: b :: c :: d :: cs)

/-- The values of digits. -/
def digitValues (cs : List Char) : List Nat := cs.map fun c => c.toNat - '0'.toNat

/-- At least one digit and nothing else. -/
def IsDigitRun (cs : List Char) : Prop := cs ≠ [] ∧ ∀ c ∈ cs, isDigit c = true

/-- The texts of the digits before the point; a zero stands alone. -/
inductive SpellsWhole : List Nat → List Char → Prop
  | zero : SpellsWhole [0] ['0']
  | digits {c : Char} {cs : List Char} :
      c ≠ '0' → IsDigitRun (c :: cs) → SpellsWhole (digitValues (c :: cs)) (c :: cs)

/-- The texts of the digits behind the point. -/
inductive SpellsFraction : List Nat → List Char → Prop
  | none : SpellsFraction [] []
  | digits {cs : List Char} : IsDigitRun cs → SpellsFraction (digitValues cs) ('.' :: cs)

/-- The texts of the sign of an exponent. -/
inductive SpellsSign : Bool → List Char → Prop
  | none : SpellsSign false []
  | plus : SpellsSign false ['+']
  | minus : SpellsSign true ['-']

/-- The texts of an exponent. -/
inductive SpellsExponent : Option (Bool × List Nat) → List Char → Prop
  | none : SpellsExponent none []
  | digits {e : Char} {negative : Bool} {sign cs : List Char} :
      e = 'e' ∨ e = 'E' → SpellsSign negative sign → IsDigitRun cs →
      SpellsExponent (some (negative, digitValues cs)) (e :: (sign ++ cs))

/-- The texts of a number. -/
inductive SpellsNumeral : Numeral → List Char → Prop
  | positive {w f : List Nat} {x : Option (Bool × List Nat)} {cw cf cx : List Char} :
      SpellsWhole w cw → SpellsFraction f cf → SpellsExponent x cx →
      SpellsNumeral ⟨false, w, f, x⟩ (cw ++ (cf ++ cx))
  | negative {w f : List Nat} {x : Option (Bool × List Nat)} {cw cf cx : List Char} :
      SpellsWhole w cw → SpellsFraction f cf → SpellsExponent x cx →
      SpellsNumeral ⟨true, w, f, x⟩ ('-' :: (cw ++ (cf ++ cx)))

/-- What stands before an element or a member: nothing before the first, a comma before others. -/
inductive Separator : Bool → List Char → Prop
  | first : Separator true []
  | comma {b : List Char} : Blanks b → Separator false (b ++ [','])

/-- What a stretch of a document holds: a value, or all that there is in a list or in an object
behind its opening bracket (`first`) or behind an element or a member, up to the closing bracket. -/
inductive Phrase
  | value (v : Value)
  | elements (first : Bool) (vs : List Value)
  | members (first : Bool) (ms : List (Units × Value))

/-- The texts of a phrase. -/
inductive Spells : Phrase → List Char → Prop
  | null : Spells (.value .null) ['n', 'u', 'l', 'l']
  | yes : Spells (.value (.boolean true)) ['t', 'r', 'u', 'e']
  | no : Spells (.value (.boolean false)) ['f', 'a', 'l', 's', 'e']
  | number {n : Numeral} {cs : List Char} : SpellsNumeral n cs → Spells (.value (.number n)) cs
  | text {us : Units} {cs : List Char} :
      SpellsText us cs → Spells (.value (.text us)) ('"' :: (cs ++ ['"']))
  | list {vs : List Value} {cs : List Char} :
      Spells (.elements true vs) cs → Spells (.value (.list vs)) ('[' :: (cs ++ [']']))
  | object {ms : List (Units × Value)} {cs : List Char} :
      Spells (.members true ms) cs → Spells (.value (.object ms)) ('{' :: (cs ++ ['}']))
  | noElement {first : Bool} {b : List Char} : Blanks b → Spells (.elements first []) b
  | element {first : Bool} {v : Value} {vs : List Value} {s b cs ds : List Char} :
      Separator first s → Blanks b → Spells (.value v) cs → Spells (.elements false vs) ds →
      Spells (.elements first (v :: vs)) (s ++ (b ++ (cs ++ ds)))
  | noMember {first : Bool} {b : List Char} : Blanks b → Spells (.members first []) b
  | member {first : Bool} {us : Units} {v : Value} {ms : List (Units × Value)}
      {s b₁ ks b₂ b₃ cs ds : List Char} :
      Separator first s → Blanks b₁ → SpellsText us ks → Blanks b₂ → Blanks b₃ →
      Spells (.value v) cs → Spells (.members false ms) ds →
      Spells (.members first ((us, v) :: ms))
        (s ++ (b₁ ++ '"' :: (ks ++ '"' :: (b₂ ++ ':' :: (b₃ ++ (cs ++ ds))))))

/-- The document is a value with blanks around it. -/
def Value.SpelledBy (v : Value) (document : String) : Prop :=
  ∃ b cs b', Blanks b ∧ Spells (.value v) cs ∧ Blanks b' ∧ document.toList = b ++ (cs ++ b')

/-- Characters that need no escape spell themselves. -/
theorem Plain.spellsText {cs : List Char} (h : Plain cs) :
    SpellsText (cs.flatMap unitsOf) cs := by
  induction cs with
  | nil => exact .nil
  | cons c cs ih =>
    obtain ⟨hs, hq, hb⟩ := h c List.mem_cons_self
    exact .plain hs hq hb (ih fun d hd => h d (List.mem_cons_of_mem c hd))

/-! ### Where a value starts and stops -/

variable {b cs rest : List Char}

/-- The text does not go on with something that a number would take in. -/
def Delimited (rest : List Char) : Prop :=
  ∀ c ∈ rest.head?, isDigit c = false ∧ c ≠ '.' ∧ c ≠ 'e' ∧ c ≠ 'E'

theorem blanks_nil : Blanks [] := List.forall_mem_nil _

/-- A document may do without blanks around its value. -/
theorem Spells.spelledBy {v : Value} {document : String}
    (h : Spells (.value v) document.toList) : v.SpelledBy document :=
  ⟨[], document.toList, [], blanks_nil, h, blanks_nil, (List.append_nil _).symm⟩

theorem skipBlanks_blanks (hb : Blanks b) : skipBlanks (b ++ cs) = skipBlanks cs := by
  induction b with
  | nil => rfl
  | cons c b ih =>
    have hc : isBlank c = true := hb c List.mem_cons_self
    have := ih fun d hd => hb d (List.mem_cons_of_mem c hd)
    simpa [skipBlanks, hc] using this

theorem skipBlanks_cons {c : Char} (hc : isBlank c = false) : skipBlanks (c :: cs) = c :: cs := by
  simp [skipBlanks, hc]

@[simp] theorem isBlank_marks : isBlank '"' = false ∧ isBlank ',' = false ∧ isBlank ':' = false ∧
    isBlank '[' = false ∧ isBlank ']' = false ∧ isBlank '{' = false ∧ isBlank '}' = false := by
  decide

theorem skipBlanks_mark {c : Char} (hb : Blanks b) (hc : isBlank c = false) :
    skipBlanks (b ++ c :: cs) = c :: cs := by
  rw [skipBlanks_blanks hb, skipBlanks_cons hc]

theorem isDigit_of_isBlank {c : Char} (h : isBlank c = true) :
    isDigit c = false ∧ c ≠ '.' ∧ c ≠ 'e' ∧ c ≠ 'E' := by
  simp only [isBlank, Bool.or_eq_true, decide_eq_true_eq] at h
  obtain ((rfl | rfl) | rfl) | rfl := h <;> decide

theorem Delimited.blanks (hb : Blanks b) (hr : Delimited rest) : Delimited (b ++ rest) := by
  cases b with
  | nil => exact hr
  | cons c b =>
    intro d hd
    obtain rfl : c = d := by simpa using hd
    exact isDigit_of_isBlank (hb c List.mem_cons_self)

theorem delimited_of_blanks (hb : Blanks b) : Delimited b := by
  have hnil : Delimited [] := by intro c hc; simp at hc
  simpa using hnil.blanks hb

theorem delimited_cons {c : Char} (hc : c = ',' ∨ c = ':' ∨ c = ']' ∨ c = '}') :
    Delimited (c :: rest) := by
  intro d hd
  obtain rfl : c = d := by simpa using hd
  obtain rfl | rfl | rfl | rfl := hc <;> decide

/-- The first character of a value: no blank, and no bracket that closes anything. -/
def Opens (c : Char) : Prop := isBlank c = false ∧ c ≠ ']' ∧ c ≠ '}' ∧ c ≠ ','

instance (c : Char) : Decidable (Opens c) := inferInstanceAs (Decidable (_ ∧ _ ∧ _ ∧ _))

theorem opens_of_isDigit {c : Char} (h : isDigit c = true) : Opens c := by
  refine ⟨?_, ?_, ?_, ?_⟩
  · -- a blank is no digit
    by_contra hb
    simp [isDigit_of_isBlank (by simpa using hb)] at h
  all_goals (rintro rfl; revert h; decide)

theorem SpellsWhole.opens {w : List Nat} (h : SpellsWhole w cs) :
    ∃ c r, cs = c :: r ∧ isDigit c = true := by
  cases h with
  | zero => exact ⟨_, _, rfl, by decide⟩
  | digits _ hd => exact ⟨_, _, rfl, hd.2 _ List.mem_cons_self⟩

/-- The first character of a number. -/
def OpensNumber (c : Char) : Prop := c = '-' ∨ isDigit c = true

theorem SpellsNumeral.opens {n : Numeral} (h : SpellsNumeral n cs) :
    ∃ c r, cs = c :: r ∧ OpensNumber c := by
  cases h with
  | positive hw _ _ =>
    obtain ⟨c, r, rfl, hc⟩ := hw.opens
    exact ⟨c, _, rfl, .inr hc⟩
  | negative _ _ _ => exact ⟨_, _, rfl, .inl rfl⟩

theorem OpensNumber.opens {c : Char} (h : OpensNumber c) : Opens c := by
  obtain rfl | h := h
  · decide
  · exact opens_of_isDigit h

/-- No other value begins like a number. -/
theorem OpensNumber.ne {c : Char} (h : OpensNumber c) :
    c ≠ 'n' ∧ c ≠ 't' ∧ c ≠ 'f' ∧ c ≠ '"' ∧ c ≠ '[' ∧ c ≠ '{' := by
  obtain rfl | h := h
  · decide
  · refine ⟨?_, ?_, ?_, ?_, ?_, ?_⟩ <;> (rintro rfl; revert h; decide)

theorem Spells.opens {v : Value} (h : Spells (.value v) cs) : ∃ c r, cs = c :: r ∧ Opens c := by
  cases h with
  | number hn =>
    obtain ⟨c, r, rfl, hc⟩ := hn.opens
    exact ⟨c, r, rfl, hc.opens⟩
  | null => exact ⟨_, _, rfl, by decide⟩
  | yes => exact ⟨_, _, rfl, by decide⟩
  | no => exact ⟨_, _, rfl, by decide⟩
  | text => exact ⟨_, _, rfl, by decide⟩
  | list => exact ⟨_, _, rfl, by decide⟩
  | object => exact ⟨_, _, rfl, by decide⟩

theorem Spells.skipBlanks {v : Value} (h : Spells (.value v) cs) (hb : Blanks b)
    (rest : List Char) : Json.skipBlanks (b ++ (cs ++ rest)) = cs ++ rest := by
  obtain ⟨c, r, rfl, hc⟩ := h.opens
  rw [skipBlanks_blanks hb, List.cons_append, skipBlanks_cons hc.1]

/-- A value is delimited by what stands behind it in a list. -/
theorem Spells.delimited_elements {vs : List Value} (h : Spells (.elements false vs) cs)
    (rest : List Char) : Delimited (cs ++ ']' :: rest) := by
  cases h with
  | noElement hb => exact .blanks hb (delimited_cons (by simp))
  | element hs _ _ _ =>
    cases hs with
    | comma hb => simpa using Delimited.blanks hb (delimited_cons (.inl rfl))

/-- A value is delimited by what stands behind it in an object. -/
theorem Spells.delimited_members {ms : List (Units × Value)} (h : Spells (.members false ms) cs)
    (rest : List Char) : Delimited (cs ++ '}' :: rest) := by
  cases h with
  | noMember hb => exact .blanks hb (delimited_cons (by simp))
  | member hs _ _ _ _ _ _ =>
    cases hs with
    | comma hb => simpa using Delimited.blanks hb (delimited_cons (.inl rfl))

end ShaperDash.Json
