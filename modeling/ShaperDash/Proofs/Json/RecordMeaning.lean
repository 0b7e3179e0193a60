import ShaperDash.Proofs.Json.Meaning

/-!
# What records make of values

A record is tied to the meaning of its fields.  Both of its spellings are then functions of values:
`Meaning.elements` takes a list field by field, and `Meaning.members` takes an object member by
member, with the names that were given so far.

* `Record.Meaning` : what the values of the fields do to the draft.
* `Record.Meaning.readMembers_spelled`, `Record.Meaning.readFields_spelled` : the two loops.
* `Record.Meaning.reader_denotes` : **a record is read as its fields say**, in either spelling.
-/

namespace ShaperDash.Json

variable {α : Type} {cs rest : List Char}

/-- What the values of the fields of a record do to the draft.  Fields have names of their own, and
it does not matter in which order two of them change the draft. -/
structure Record.Meaning (R : Record α) where
  /-- What a value does that stands under the name of a field. -/
  set : String → Value → Option (α → α)
  denotes : ∀ f ∈ R.fields, f.reader.Denotes (set f.name)
  commute : ∀ {m n : String} {v w : Value} {g h : α → α}, m ≠ n → set m v = some g →
    set n w = some h → ∀ a, g (h a) = h (g a)
  nodup : (R.fields.map Field.name).Nodup

namespace Record.Meaning

variable {R : Record α} (M : R.Meaning)

/-! ### Objects -/

/-- What a member makes of the draft and of the names given. -/
def member (name : String) (v : Value) (draft : α) (given : List String) :
    Option (α × List String) :=
  match R.field? name with
  | none => some (draft, given)
  | some f =>
    if given.contains f.name then none
    else (M.set f.name v).map fun g => (g draft, f.name :: given)

/-- What the members of an object make of the draft. -/
def members : List (Units × Value) → α → List String → Option α
  | [], draft, given => if (R.missing? given).isSome then none else some draft
  | (us, v) :: ms, draft, given =>
    (charactersOf us).bind fun cs =>
      (M.member (String.ofList cs) v draft given).bind fun (draft, given) =>
        members ms draft given

theorem readMember_spelled {name : String} {v : Value} {draft : α} {given : List String}
    {b b' : List Char} (hb : Blanks b) (hb' : Blanks b') (hv : Spells (.value v) cs)
    (hr : Delimited rest) :
    (R.readMember name draft given (b ++ ':' :: (b' ++ (cs ++ rest)))).toOption =
      (M.member name v draft given).map (·, rest) := by
  unfold readMember member
  cases hf : R.field? name with
  | none => simp [takeColon_spelled hb, skipValue_spelled hv hb' hr]
  | some f =>
    have hrun := M.denotes f (field?_mem hf) v b' cs rest hb' hv hr
    by_cases hg : given.contains f.name = true
    · simp only [if_pos hg]
      rfl
    · simp only [if_neg hg, takeColon_spelled hb, toOption_map, hrun]
      cases M.set f.name v <;> rfl

theorem readMembers_spelled {first : Bool} {ms : List (Units × Value)} {draft : α}
    {given : List String} (h : Spells (.members first ms) cs) :
    (R.readMembers first draft given (cs ++ '}' :: rest)).toOption =
      (M.members ms draft given).map (·, rest) := by
  induction ms generalizing first cs draft given with
  | nil =>
    cases h with
    | noMember hb =>
      rw [readMembers_close (nextKey_last hb), finish, members]
      cases R.missing? given <;> rfl
  | cons m ms ih =>
    cases h with
    | @member _ us v _ s b₁ ks b₂ b₃ cs ds hs hb₁ hk hb₂ hb₃ hv hms =>
      have hkey : (scanString (ks ++ '"' :: (b₂ ++ ':' :: (b₃ ++ (cs ++ (ds ++ '}' :: rest)))))
          ).toOption = _ := scanString_spelled hk
      simp only [List.append_assoc, List.cons_append]
      rw [readMembers_member (nextKey_member hs hb₁)]
      simp only [toOption_bind, hkey, members]
      -- a key without characters is refused before anything is looked up
      cases charactersOf us with
      | none => rfl
      | some name =>
        simp only [Option.map_some, Option.bind_some,
          M.readMember_spelled hb₂ hb₃ hv (hms.delimited_members rest)]
        cases M.member (String.ofList name) v draft given with
        | none => rfl
        | some p => exact ih hms

/-! ### Lists -/

/-- What the elements of a list make of the draft for the fields left. -/
def elements : List (Field α) → List Value → α → Option α
  | [], vs, draft => if vs.isEmpty then some draft else none
  | f :: fs, [], draft => if (f :: fs).any Field.required then none else some draft
  | f :: fs, v :: vs, draft => (M.set f.name v).bind fun g => elements fs vs (g draft)

theorem firstRequired_isSome (i : Nat) (fs : List (Field α)) :
    (firstRequired i fs).isSome = fs.any Field.required := by
  induction fs generalizing i with
  | nil => rfl
  | cons f fs ih => cases h : f.required <;> simp [firstRequired, h, ih]

theorem readFields_spelled {first : Bool} {i : Nat} {fs : List (Field α)} {vs : List Value}
    {draft : α} (hfs : ∀ f ∈ fs, f ∈ R.fields) (h : Spells (.elements first vs) cs) :
    (R.readFields first i draft fs (cs ++ ']' :: rest)).toOption =
      (M.elements fs vs draft).map (·, rest) := by
  induction fs generalizing first i vs cs draft with
  | nil =>
    rw [readFields, toOption_map, closeList_spelled h, elements]
    cases vs <;> rfl
  | cons f fs ih =>
    cases h with
    | noElement hb =>
      -- the list ends early: the draft stands for the fields left, unless one is required
      have hreq := firstRequired_isSome i (f :: fs)
      simp only [readFields, nextElement_last hb, elements, ← hreq]
      cases firstRequired i (f :: fs) <;> rfl
    | @element _ v vs s b cs ds hs hb hv hvs =>
      have hrun := M.denotes f (hfs f List.mem_cons_self) v [] cs _ blanks_nil hv
        (hvs.delimited_elements rest)
      rw [List.nil_append] at hrun
      simp only [List.append_assoc]
      rw [readFields_item (nextElement_element hs hb hv)]
      simp only [toOption_bind, hrun, elements]
      cases M.set f.name v with
      | none => rfl
      | some g => exact ih (fun f' hf' => hfs f' (List.mem_cons_of_mem f hf')) hvs

/-! ### Both spellings -/

/-- What a record makes of a value. -/
def value : Value → Option α
  | .list vs => M.elements R.fields vs R.draft
  | .object ms => M.members ms R.draft []
  | _ => none

/-- **A record is read as its fields say**, in either spelling. -/
theorem reader_denotes : R.reader.Denotes M.value := by
  intro v b cs rest hb hv _
  have hskip := hv.skipBlanks hb rest
  obtain ⟨c, r, rfl, hlist, hobject⟩ := hv.bracket
  rw [List.cons_append] at hskip ⊢
  simp only [reader, hskip]
  by_cases ho : c = '{'
  · obtain ⟨ms, rfl⟩ := hobject ho
    cases hv with
    | object hms => simpa [value] using M.readMembers_spelled hms
  by_cases hl : c = '['
  · obtain ⟨vs, rfl⟩ := hlist hl
    cases hv with
    | list hvs => simpa [value] using M.readFields_spelled (fun _ hf => hf) hvs
  · rw [if_neg ho, if_neg hl, mismatch_toOption]
    cases hv with
    | list => exact absurd rfl hl
    | object => exact absurd rfl ho
    | _ => rfl

end Record.Meaning

end ShaperDash.Json
