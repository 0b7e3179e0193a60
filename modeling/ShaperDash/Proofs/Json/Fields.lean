import ShaperDash.Proofs.Json.RecordMeaning

/-!
# Objects field by field

The loop over the members of an object takes them as they come.  What it gives is also known from
the fields alone: each field looks up the values under its name, wherever they stand.

* `valuesOf` : the values under a name.
* `Record.Meaning.fill` : the draft filled field by field.
* `Record.Meaning.members_eq_fill` : **the members of an object fill the fields**, by induction on
  the members with the names given so far.
-/

namespace ShaperDash.Json

variable {α : Type}

/-- The values under a name, in their order. -/
def valuesOf (name : String) (ms : List (Units × Value)) : List Value :=
  (ms.filter fun m => Names m.1 name).map (·.2)

/-- No key has an unpaired surrogate. -/
def Paired (ms : List (Units × Value)) : Prop := ∀ m ∈ ms, ∃ name : String, Names m.1 name

theorem valuesOf_cons {us : Units} {name : String} (h : Names us name) (v : Value)
    (ms : List (Units × Value)) : valuesOf name ((us, v) :: ms) = v :: valuesOf name ms := by
  simp [valuesOf, h]

theorem Names.unique {us : Units} {m n : String} (hm : Names us m) (hn : Names us n) : m = n := by
  have : some m.toList = some n.toList := hm.symm.trans hn
  exact String.toList_inj.1 (Option.some.inj this)

theorem valuesOf_cons_of_ne {us : Units} {name other : String} (h : Names us other)
    (hne : name ≠ other) (v : Value) (ms : List (Units × Value)) :
    valuesOf name ((us, v) :: ms) = valuesOf name ms := by
  have : ¬ Names us name := fun h' => hne (h'.unique h)
  simp [valuesOf, this]

namespace Record.Meaning

variable {R : Record α} (M : R.Meaning) {f : Field α} {fs : List (Field α)} {given : List String}
  {draft : α} {ms ms' : List (Units × Value)}

/-- What the values under the name of a field do to the draft when other members have given the
names `given`.  There is at most one value, and none for a name that is given. -/
def only (given : List String) (f : Field α) : List Value → Option (α → α)
  | [] => if f.required && !given.contains f.name then none else some id
  | [v] => if given.contains f.name then none else M.set f.name v
  | _ => none

/-- The draft filled field by field from the members of an object. -/
def fill (given : List String) (ms : List (Units × Value)) : List (Field α) → α → Option α
  | [], draft => some draft
  | f :: fs, draft => (M.only given f (valuesOf f.name ms)).bind fun g => fill given ms fs (g draft)

/-- Only the values under the names of the fields matter. -/
theorem fill_congr {given' : List String}
    (h : ∀ f ∈ fs, M.only given f (valuesOf f.name ms) = M.only given' f (valuesOf f.name ms')) :
    M.fill given ms fs draft = M.fill given' ms' fs draft := by
  induction fs generalizing draft with
  | nil => rfl
  | cons f fs ih =>
    rw [fill, fill, h f List.mem_cons_self]
    congr 1
    funext g
    exact ih fun f' hf' => h f' (List.mem_cons_of_mem f hf')

theorem fill_eq_none (hf : f ∈ fs) (h : M.only given f (valuesOf f.name ms) = none) :
    M.fill given ms fs draft = none := by
  induction fs generalizing draft with
  | nil => simp at hf
  | cons f' fs ih =>
    rw [fill]
    obtain rfl | hf := List.mem_cons.1 hf
    · rw [h]
      rfl
    · cases M.only given f' (valuesOf f'.name ms) with
      | none => rfl
      | some g => exact ih hf

theorem fill_nil :
    M.fill given [] fs draft =
      if fs.any fun f => f.required && !given.contains f.name then none else some draft := by
  induction fs generalizing draft with
  | nil => rfl
  | cons f fs ih =>
    rw [fill, show valuesOf f.name [] = [] from rfl, only, List.any_cons]
    cases hf : f.required && !given.contains f.name with
    | true => rfl
    | false => simpa using ih

/-- A name that was given to one field does not concern another. -/
theorem only_cons_given {name : String} (h : f.name ≠ name) (vs : List Value) :
    M.only (name :: given) f vs = M.only given f vs := by
  rcases vs with _ | ⟨v, _ | ⟨w, vs⟩⟩ <;> simp [only, h]

theorem only_commute {name : String} {v : Value} {vs : List Value} {g h : α → α}
    (hne : f.name ≠ name) (hg : M.only given f vs = some g) (hh : M.set name v = some h) (a : α) :
    g (h a) = h (g a) := by
  rcases vs with _ | ⟨w, _ | ⟨x, vs⟩⟩
  · obtain ⟨-, rfl⟩ : _ ∧ id = g := by simpa [only] using hg
    rfl
  · obtain ⟨-, hg⟩ : _ ∧ M.set f.name w = some g := by simpa [only] using hg
    exact M.commute hne hg hh a
  · simp [only] at hg

/-- A value under a name that is not given yet goes to its field wherever that stands. -/
theorem fill_cons {us : Units} {v : Value} (hnd : (fs.map Field.name).Nodup) (hf : f ∈ fs)
    (hn : Names us f.name) (hg : f.name ∉ given) :
    M.fill given ((us, v) :: ms) fs draft =
      (M.set f.name v).bind fun g => M.fill (f.name :: given) ms fs (g draft) := by
  induction fs generalizing draft with
  | nil => simp at hf
  | cons f' fs ih =>
    obtain ⟨hnot, hnd⟩ := List.nodup_cons.1 hnd
    rw [fill]
    by_cases hname : f'.name = f.name
    · -- the value is the only one of this field, and the other fields do not see it
      have hothers : ∀ d, M.fill given ((us, v) :: ms) fs d = M.fill (f.name :: given) ms fs d := by
        refine fun d => M.fill_congr fun f'' hf'' => ?_
        have hne : f''.name ≠ f.name := by
          rintro heq
          exact hnot (hname ▸ heq ▸ List.mem_map_of_mem hf'')
        rw [valuesOf_cons_of_ne hn hne, M.only_cons_given hne]
      simp only [fill, hname, valuesOf_cons hn, hothers]
      rcases valuesOf f.name ms with _ | ⟨w, ws⟩
      · simp [only, hname, hg]
      · cases M.set f.name v <;> cases ws <;> simp [only, hname]
    · -- the value goes past this field, whose own change may come before or after
      have hf : f ∈ fs := (List.mem_cons.1 hf).resolve_left fun heq => hname (heq ▸ rfl)
      simp only [fill, valuesOf_cons_of_ne hn hname, M.only_cons_given hname, ih hnd hf]
      cases ho : M.only given f' (valuesOf f'.name ms) with
      | none => cases M.set f.name v <;> rfl
      | some g =>
        cases hs : M.set f.name v with
        | none => rfl
        | some h => simp only [Option.bind_some, M.only_commute hname ho hs]

/-- A member that nobody asked for changes nothing. -/
theorem fill_cons_of_field?_eq_none {us : Units} {name : String} {v : Value} (hn : Names us name)
    (h : R.field? name = none) :
    M.fill given ((us, v) :: ms) R.fields draft = M.fill given ms R.fields draft := by
  refine M.fill_congr fun f hf => ?_
  have hne : f.name ≠ name := by simpa using List.find?_eq_none.1 h f hf
  rw [valuesOf_cons_of_ne hn hne]

/-- **The members of an object fill the fields.**  In whatever order they come, each field takes the
only value under its name. -/
theorem members_eq_fill (hp : Paired ms) :
    M.members ms draft given = M.fill given ms R.fields draft := by
  -- the names given so far carry what the loop has seen of the members before
  induction ms generalizing draft given with
  | nil =>
    rw [members, fill_nil, missing?, List.isSome_find?]
  | cons m ms ih =>
    obtain ⟨us, v⟩ := m
    obtain ⟨name, hn⟩ := hp (us, v) List.mem_cons_self
    have hp : Paired ms := fun m hm => hp m (List.mem_cons_of_mem _ hm)
    rw [members, show charactersOf us = some name.toList from hn, Option.bind_some,
      String.ofList_toList, member]
    cases hf : R.field? name with
    | none => simp only [M.fill_cons_of_field?_eq_none hn hf, Option.bind_some, ih hp]
    | some f =>
      obtain rfl : f.name = name := by simpa using List.find?_some hf
      have hmem := field?_mem hf
      dsimp only
      by_cases hg : f.name ∈ given
      · rw [M.fill_eq_none hmem]
        · simp [hg]
        · rw [valuesOf_cons hn]
          cases valuesOf f.name ms <;> simp [only, hg]
      · rw [M.fill_cons M.nodup hmem hn hg]
        cases M.set f.name v with
        | none => simp [hg]
        | some g => simp [hg, ih hp]

end Record.Meaning

end ShaperDash.Json
