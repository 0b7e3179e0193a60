import ShaperDash.Proofs.Json.Accepted
import ShaperDash.Proofs.Json.Spellings
import ShaperDash.Proofs.Json.Types

/-!
# The members that a document gives

Which documents are decoded as a record, and as what, told from their members alone.

* `Record.GivenBy` : the document gives the record these members, in either spelling.
* `Record.Meaning.decode_eq_ok_iff` : **a document is decoded exactly if it gives members that fill
  the fields**.
* `valuesOf_perm`, `AtMostOnce.perm` : neither the order of the members matters nor members that
  nobody asked for.
-/

namespace ShaperDash.Json

variable {α : Type} {ms ms' others : List (Units × Value)} {document : String}

/-- The document gives a record these members: it is an object of them, and none of its keys has an
unpaired surrogate, or it is a list of their values, which go to the fields in turn. -/
inductive Record.GivenBy (R : Record α) (document : String) : List (Units × Value) → Prop
  | object {ms : List (Units × Value)} :
      (Value.object ms).SpelledBy document → Paired ms → R.GivenBy document ms
  | list {vs : List Value} : (Value.list vs).SpelledBy document → vs.length ≤ R.fields.length →
      R.GivenBy document (R.named vs)

namespace Record.Meaning

variable {R : Record α} (M : R.Meaning) {draft a : α} {given : List String}

/-- The loop over the members refuses a key with an unpaired surrogate. -/
theorem paired_of_members (h : M.members ms draft given = some a) : Paired ms := by
  induction ms generalizing draft given with
  | nil => exact List.forall_mem_nil _
  | cons m ms ih =>
    obtain ⟨us, v⟩ := m
    obtain ⟨cs, hcs, h⟩ := Option.bind_eq_some_iff.1 h
    obtain ⟨⟨draft', given'⟩, -, hms⟩ := Option.bind_eq_some_iff.1 h
    have hkey : Names us (String.ofList cs) := by rw [Names, hcs, String.toList_ofList]
    exact List.forall_mem_cons.2 ⟨⟨_, hkey⟩, ih hms⟩

theorem value_object_eq (h : Paired ms) :
    M.value (.object ms) = M.fill [] ms R.fields R.draft := M.members_eq_fill h

theorem value_list_eq {vs : List Value} (h : vs.length ≤ R.fields.length) :
    M.value (.list vs) = M.fill [] (R.named vs) R.fields R.draft :=
  (M.value_named h).symm.trans (M.value_object_eq (paired_namedBy R.fields vs))

/-- **A document is decoded exactly if it gives members that fill the fields.** -/
theorem decode_eq_ok_iff (hR : ∀ f ∈ R.fields, f.reader.Takes) :
    R.reader.decode document = .ok a ↔
      ∃ ms, R.GivenBy document ms ∧ M.fill [] ms R.fields R.draft = some a := by
  rw [(reader_takes hR).decode_eq_ok_iff M.reader_denotes]
  constructor
  · rintro ⟨v, hv, hvalue⟩
    cases v with
    | object ms =>
      have hp : Paired ms := M.paired_of_members hvalue
      exact ⟨ms, .object hv hp, M.value_object_eq hp ▸ hvalue⟩
    | list vs =>
      have hl : vs.length ≤ R.fields.length := by
        by_contra hl
        have hnone := M.elements_surplus (Nat.lt_of_not_le hl) R.draft
        exact absurd (hnone.symm.trans hvalue) (by simp)
      exact ⟨_, .list hv hl, M.value_list_eq hl ▸ hvalue⟩
    | _ => simp [value] at hvalue
  · rintro ⟨ms, hms, hfill⟩
    cases hms with
    | object hv hp => exact ⟨_, hv, (M.value_object_eq hp).trans hfill⟩
    | list hv hl => exact ⟨_, hv, (M.value_list_eq hl).trans hfill⟩

end Record.Meaning

/-! ### Order and other members -/

/-- Members in another order, with members under other names among them, give a name the same
values. -/
theorem valuesOf_perm {name : String} (hp : (others ++ ms).Perm ms')
    (ho : ∀ m ∈ others, ¬ Names m.1 name) : (valuesOf name ms).Perm (valuesOf name ms') := by
  have hnone : others.filter (fun m => Names m.1 name) = [] :=
    List.filter_eq_nil_iff.2 fun m hm => by simpa using ho m hm
  have hvalues : valuesOf name (others ++ ms) = valuesOf name ms := by
    rw [valuesOf, List.filter_append, hnone, List.nil_append, valuesOf]
  rw [← hvalues]
  exact (hp.filter _).map _

theorem AtMostOnce.perm {name : String} {absent : Prop} {p : Value → Prop}
    (h : AtMostOnce name ms absent p) (hp : (valuesOf name ms).Perm (valuesOf name ms')) :
    AtMostOnce name ms' absent p :=
  h.correspond (r := Eq) ⟨_, _, .refl _, List.forall₂_same.2 fun _ _ => rfl, hp⟩ fun v w hvw => by
    rintro hv
    exact hvw ▸ hv

end ShaperDash.Json
