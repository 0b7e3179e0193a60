import ShaperDash.Proofs.Json.Fields

/-!
# The two spellings of a record

A record is spelled as a list of the values of its fields, or as an object with the values under the
names of the fields.  The two loops that read them have nothing in common.

* `Record.named` : the object that gives values to the fields in turn.
* `Record.Meaning.fill_namedBy` : the object fills the fields as the list does.
* `Record.Meaning.spellings_agree` : **the two spellings of a record agree**.
-/

namespace ShaperDash.Json

variable {α : Type}

/-- The units of a name. -/
def unitsOfName (name : String) : Units := name.toList.flatMap unitsOf

theorem names_unitsOfName (name : String) : Names (unitsOfName name) name := by
  unfold Names unitsOfName
  induction name.toList with
  | nil => rfl
  | cons c cs ih => rw [List.flatMap_cons, charactersOf_unitsOf, ih]; rfl

/-- The members that give values to fields in turn, as far as there are fields. -/
def namedBy (fs : List (Field α)) (vs : List Value) : List (Units × Value) :=
  (fs.map fun f => unitsOfName f.name).zip vs

/-- The members that give values to the fields of a record in turn. -/
def Record.named (R : Record α) (vs : List Value) : List (Units × Value) := namedBy R.fields vs

theorem paired_namedBy (fs : List (Field α)) (vs : List Value) : Paired (namedBy fs vs) := by
  rintro ⟨us, v⟩ hm
  obtain ⟨f, -, rfl⟩ := List.mem_map.1 (List.of_mem_zip hm).1
  exact ⟨f.name, names_unitsOfName f.name⟩

/-- A name that no field has is not given. -/
theorem valuesOf_namedBy {name : String} {fs : List (Field α)} (h : name ∉ fs.map Field.name)
    (vs : List Value) : valuesOf name (namedBy fs vs) = [] := by
  induction fs generalizing vs with
  | nil => rfl
  | cons f fs ih =>
    obtain ⟨hne, h⟩ : name ≠ f.name ∧ name ∉ fs.map Field.name := by simpa using h
    cases vs with
    | nil => rfl
    | cons v vs =>
      exact (valuesOf_cons_of_ne (names_unitsOfName f.name) hne v (namedBy fs vs)).trans (ih h vs)

/-! ### Texts of the object -/

theorem Spells.of_mem_elements {first : Bool} {vs : List Value} {cs : List Char}
    (h : Spells (.elements first vs) cs) {v : Value} (hv : v ∈ vs) :
    ∃ ds, Spells (.value v) ds := by
  induction vs generalizing first cs with
  | nil => simp at hv
  | cons w vs ih =>
    cases h with
    | element _ _ hw hvs =>
      obtain rfl | hv := List.mem_cons.1 hv
      · exact ⟨_, hw⟩
      · exact ih hvs hv

theorem exists_spells_namedBy {fs : List (Field α)} {vs : List Value}
    (hfs : ∀ f ∈ fs, Plain f.name.toList) (hvs : ∀ v ∈ vs, ∃ ds, Spells (.value v) ds)
    (first : Bool) : ∃ cs, Spells (.members first (namedBy fs vs)) cs := by
  induction fs generalizing first vs with
  | nil => exact ⟨[], .noMember blanks_nil⟩
  | cons f fs ih =>
    cases vs with
    | nil => exact ⟨[], .noMember blanks_nil⟩
    | cons v vs =>
      obtain ⟨cs, hcs⟩ := ih (fun f' hf' => hfs f' (List.mem_cons_of_mem f hf'))
        (fun v' hv' => hvs v' (List.mem_cons_of_mem v hv')) false
      obtain ⟨ds, hds⟩ := hvs v List.mem_cons_self
      have hkey := (hfs f List.mem_cons_self).spellsText
      cases first with
      | true => exact ⟨_, .member .first blanks_nil hkey blanks_nil blanks_nil hds hcs⟩
      | false =>
        exact ⟨_, .member (.comma blanks_nil) blanks_nil hkey blanks_nil blanks_nil hds hcs⟩

/-- The object that gives values to the fields has a text if the list of the values has one. -/
theorem Record.exists_spelling_named {R : Record α} (hR : ∀ f ∈ R.fields, Plain f.name.toList)
    {vs : List Value} {list : String} (h : (Value.list vs).SpelledBy list) :
    ∃ object, (Value.object (R.named vs)).SpelledBy object := by
  obtain ⟨_, _, _, -, hlist, -, -⟩ := h
  cases hlist with
  | list hvs =>
    obtain ⟨cs, hcs⟩ := exists_spells_namedBy hR (fun v hv => hvs.of_mem_elements hv) true
    have hobject := Spells.object hcs
    rw [← String.toList_ofList (l := '{' :: (cs ++ ['}']))] at hobject
    exact ⟨_, hobject.spelledBy⟩

/-! ### Agreement -/

/-- Both spellings of a record give the same value, or both give none; a list gives none either if
it has more elements than the record has fields. -/
structure Record.SpellingsAgree (R : Record α) : Prop where
  spelled : ∀ {vs : List Value} {list : String}, (Value.list vs).SpelledBy list →
    ∃ object, (Value.object (R.named vs)).SpelledBy object
  agree : ∀ {vs : List Value} {list object : String}, (Value.list vs).SpelledBy list →
    (Value.object (R.named vs)).SpelledBy object → ∀ a, R.reader.decode list = .ok a ↔
      vs.length ≤ R.fields.length ∧ R.reader.decode object = .ok a
  missing : ∀ {vs : List Value} {list : String}, (Value.list vs).SpelledBy list →
    ∀ f ∈ R.fields.drop vs.length, f.required = true → ∃ e, R.reader.decode list = .error e
  surplus : ∀ {vs : List Value} {list : String}, (Value.list vs).SpelledBy list →
    R.fields.length < vs.length → ∃ e, R.reader.decode list = .error e

namespace Record.Meaning

variable {R : Record α} (M : R.Meaning) {fs : List (Field α)} {vs : List Value}

theorem elements_surplus (h : fs.length < vs.length) (draft : α) :
    M.elements fs vs draft = none := by
  induction fs generalizing vs draft with
  | nil =>
    cases vs with
    | nil => simp at h
    | cons v vs => rfl
  | cons f fs ih =>
    cases vs with
    | nil => simp at h
    | cons v vs =>
      rw [elements]
      cases M.set f.name v with
      | none => rfl
      | some g => exact ih (by simpa using h) (g draft)

theorem elements_missing {f : Field α} (hf : f ∈ fs.drop vs.length) (hr : f.required = true)
    (draft : α) : M.elements fs vs draft = none := by
  induction fs generalizing vs draft with
  | nil => simp at hf
  | cons f' fs ih =>
    cases vs with
    | nil =>
      have hany : (f' :: fs).any Field.required = true := List.any_eq_true.2 ⟨f, hf, hr⟩
      rw [elements, if_pos hany]
    | cons v vs =>
      rw [elements]
      cases M.set f'.name v with
      | none => rfl
      | some g => exact ih (by simpa using hf) (g draft)

/-- The object that gives values to the fields in turn fills them as the list of the values does. -/
theorem fill_namedBy (hnd : (fs.map Field.name).Nodup) (hl : vs.length ≤ fs.length) (draft : α) :
    M.fill [] (namedBy fs vs) fs draft = M.elements fs vs draft := by
  induction fs generalizing vs draft with
  | nil =>
    obtain rfl : vs = [] := by simpa using hl
    rfl
  | cons f fs ih =>
    obtain ⟨hnot, hnd⟩ := List.nodup_cons.1 hnd
    cases vs with
    | nil =>
      rw [show namedBy (f :: fs) [] = [] from rfl, fill_nil, elements]
      simp
    | cons v vs =>
      have hn := names_unitsOfName f.name
      have hthere : valuesOf f.name (namedBy (f :: fs) (v :: vs)) = [v] :=
        (valuesOf_cons hn v (namedBy fs vs)).trans (by rw [valuesOf_namedBy hnot])
      -- the other fields do not see this member
      have hothers : ∀ d, M.fill [] (namedBy (f :: fs) (v :: vs)) fs d =
          M.fill [] (namedBy fs vs) fs d := by
        refine fun d => M.fill_congr fun f' hf' => ?_
        have hne : f'.name ≠ f.name := fun heq => hnot (heq ▸ List.mem_map_of_mem hf')
        exact congrArg _ (valuesOf_cons_of_ne hn hne v (namedBy fs vs))
      simp only [fill, hthere, hothers, elements, only, ih hnd (by simpa using hl)]
      rfl

theorem value_named (h : vs.length ≤ R.fields.length) :
    M.value (.object (R.named vs)) = M.value (.list vs) := by
  rw [value, value, named, M.members_eq_fill (paired_namedBy R.fields vs),
    M.fill_namedBy M.nodup h]

theorem error_of_value_eq_none {v : Value} {document : String} (hv : v.SpelledBy document)
    (h : M.value v = none) : ∃ e, R.reader.decode document = .error e := by
  cases hd : R.reader.decode document with
  | error e => exact ⟨e, rfl⟩
  | ok a =>
    have := (M.reader_denotes.decode_eq_ok_iff hv).1 hd
    simp [h] at this

/-- **The two spellings of a record agree.** -/
theorem spellings_agree (M : R.Meaning) (hR : ∀ f ∈ R.fields, Plain f.name.toList) :
    R.SpellingsAgree where
  spelled := R.exists_spelling_named hR
  agree {vs list object} hlist hobject a := by
    rw [M.reader_denotes.decode_eq_ok_iff hlist, M.reader_denotes.decode_eq_ok_iff hobject]
    by_cases hl : vs.length ≤ R.fields.length
    · rw [M.value_named hl]
      exact (and_iff_right hl).symm
    · -- the object drops the surplus, the list does not
      have hnone : M.value (.list vs) = none := M.elements_surplus (Nat.lt_of_not_le hl) R.draft
      simp [hnone, hl]
  missing hlist _ hf hr := M.error_of_value_eq_none hlist (M.elements_missing hf hr R.draft)
  surplus hlist h := M.error_of_value_eq_none hlist (M.elements_surplus h R.draft)

end Record.Meaning

end ShaperDash.Json
