import ShaperDash.Proofs.Json.Members

/-!
# Places in a document

A place is a value with a hole in it: what stands there may be changed and the rest stays.  Where
the values around the hole are taken, the whole is taken exactly if what stands in the hole is, and
the result holds what was made of it.  That goes on from a pair to its elements, from a list to its
elements and from a record to its fields, so that a place may be as deep as it likes.

* `ReadsAt` : what stands at a place decides whether the whole is taken, and is found in the result.
* `ReadsAt.comp` : a place in a place.
* `Record.GivesAt` : the places of a field, in either spelling of the record.
* `Record.Meaning.readsAt` : **what stands at the place of a field is what the field gets.**
* `ReadsAt.takesWhole` : where natural numbers are read, exactly those up to the limit are taken.
-/

namespace ShaperDash.Json

variable {α β γ : Type}

/-! ### Places -/

/-- Reading a value by `f` reads what stands at the place by `t`.  If anything at the place makes
the whole acceptable, what `t` takes does and nothing else; and `get` finds there what `t` makes. -/
structure ReadsAt (f : Value → Option α) (place : Value → Value) (t : Value → Option β)
    (get : α → Option β) : Prop where
  accepts : ∀ {w v : Value}, (f (place w)).isSome → ((f (place v)).isSome ↔ (t v).isSome)
  holds : ∀ {v : Value} {a : α}, f (place v) = some a → get a = t v

namespace ReadsAt

variable {f : Value → Option α} {t : Value → Option β} {u : Value → Option γ}
  {place hole : Value → Value} {get : α → Option β} {get' : β → Option γ}

/-- A place in a place. -/
theorem comp (h : ReadsAt f place t get) (h' : ReadsAt t hole u get') :
    ReadsAt f (fun v => place (hole v)) u fun a => (get a).bind get' where
  accepts {w v} hw := by
    have hinner : (t (hole w)).isSome := (h.accepts hw).1 hw
    rw [h.accepts hw, h'.accepts hinner]
  holds {v a} ha := by
    have hsome : (f (place (hole v))).isSome := by rw [ha]; rfl
    obtain ⟨b, hb⟩ := Option.isSome_iff_exists.1 ((h.accepts hsome).1 hsome)
    rw [h.holds ha, hb, Option.bind_some, h'.holds hb]

/-- What is made of the result is found through it. -/
theorem map {g : α → γ} {get' : γ → Option β} (h : ReadsAt f place t get)
    (hget : ∀ a, get' (g a) = get a) : ReadsAt (fun v => (f v).map g) place t get' where
  accepts hw := by
    rw [Option.isSome_map] at hw ⊢
    exact h.accepts hw
  holds ha := by
    obtain ⟨a, hf, rfl⟩ := Option.map_eq_some_iff.1 ha
    rw [hget, h.holds hf]

theorem word {size : Nat} {ofNat : Nat → β} {toNat : β → Nat} (hpos : 0 < size)
    (hto : ∀ k < size, toNat (ofNat k) = k) :
    ReadsAt (fun v => (v.natural? (size - 1)).map ofNat) (fun v => v)
      (Value.natural? (size - 1)) fun b => some (toNat b) where
  accepts _ := by rw [Option.isSome_map]
  holds {v b} hb := by
    obtain ⟨k, hk, rfl⟩ := Option.map_eq_some_iff.1 hb
    have hle := (Value.natural?_eq_some_iff.1 hk).2
    rw [hk, hto k (Nat.lt_of_le_sub_one hpos hle)]

theorem word32 : ReadsAt Value.word32? (fun v => v) (Value.natural? (UInt32.size - 1))
    fun c => some c.toNat :=
  word (by decide) fun _ => UInt32.toNat_ofNat_of_lt'

theorem word64 : ReadsAt Value.word64? (fun v => v) (Value.natural? (UInt64.size - 1))
    fun c => some c.toNat :=
  word (by decide) fun _ => UInt64.toNat_ofNat_of_lt'

/-! ### Pairs and lists -/

theorem pair?_isSome_iff {v w : Value} :
    (Value.pair? t u (.list [v, w])).isSome ↔ (t v).isSome ∧ (u w).isSome := by
  cases htv : t v <;> cases huw : u w <;> simp [Value.pair?, htv, huw]

theorem of_pair? {v w : Value} {p : β × γ} (h : Value.pair? t u (.list [v, w]) = some p) :
    t v = some p.1 ∧ u w = some p.2 := by
  obtain ⟨b, hb, hp⟩ := Option.bind_eq_some_iff.1 h
  obtain ⟨c, hc, rfl⟩ := Option.map_eq_some_iff.1 hp
  exact ⟨hb, hc⟩

/-- The place of the first element of a pair. -/
theorem first (w : Value) :
    ReadsAt (Value.pair? t u) (fun v => .list [v, w]) t fun p => some p.1 where
  accepts hw := by
    rw [pair?_isSome_iff] at hw ⊢
    exact and_iff_left hw.2
  holds hp := (of_pair? hp).1.symm

/-- The place of the second element of a pair. -/
theorem second (w : Value) :
    ReadsAt (Value.pair? t u) (fun v => .list [w, v]) u fun p => some p.2 where
  accepts hw := by
    rw [pair?_isSome_iff] at hw ⊢
    exact and_iff_right hw.1
  holds hp := (of_pair? hp).2.symm

theorem list?_isSome_iff {vs : List Value} :
    (Value.list? t (.list vs)).isSome ↔ ∀ v ∈ vs, (t v).isSome := by
  rw [Value.list?]
  induction vs with
  | nil => simp
  | cons v vs ih =>
    rw [List.mapM_cons, List.forall_mem_cons, ← ih]
    cases htv : t v with
    | none => simp
    | some b => cases hvs : vs.mapM t <;> simp

/-- The place of an element of a list. -/
theorem element (before after : List Value) :
    ReadsAt (Value.list? t) (fun v => .list (before ++ v :: after)) t (·[before.length]?) where
  accepts {w v} hw := by
    rw [list?_isSome_iff, List.forall_mem_append, List.forall_mem_cons] at hw ⊢
    constructor
    · intro h
      exact h.2.1
    · intro h
      exact ⟨hw.1, h, hw.2.2⟩
  holds {v bs} hbs := by
    rw [Value.list?_eq_some_iff] at hbs
    obtain ⟨vs, heq, hbs⟩ := hbs
    obtain rfl : before ++ v :: after = vs := Value.list.inj heq
    clear heq
    induction before generalizing bs with
    | nil =>
      obtain ⟨b, bs, hb, -, rfl⟩ := List.forall₂_cons_left_iff.1 hbs
      exact hb.symm
    | cons x before ih =>
      obtain ⟨b, bs, -, hrest, rfl⟩ := List.forall₂_cons_left_iff.1 hbs
      simpa using ih hrest

end ReadsAt

/-! ### Fields -/

/-- The places of a field: under its name in an object, and in its turn in a list. -/
inductive Record.GivesAt (R : Record α) (name : String) : (Value → Value) → Prop
  | object {us : Units} (before after : List (Units × Value)) : Names us name →
      R.GivesAt name fun v => .object (before ++ (us, v) :: after)
  | list (before after : List Value) : (R.fields.map Field.name)[before.length]? = some name →
      R.GivesAt name fun v => .list (before ++ v :: after)

/-- A list of values as an object, at the turn of a field. -/
theorem Record.named_append {R : Record α} {name : String} {before : List Value}
    (after : List Value) (h : (R.fields.map Field.name)[before.length]? = some name) :
    ∃ before' after', ∀ v, R.named (before ++ v :: after) =
      before' ++ (unitsOfName name, v) :: after' := by
  obtain ⟨hlt, hname⟩ := List.getElem?_eq_some_iff.1 h
  rw [List.length_map] at hlt
  rw [List.getElem_map] at hname
  refine ⟨(namedBy (R.fields.take before.length) before),
    namedBy (R.fields.drop (before.length + 1)) after, ?_⟩
  intro v
  have hsplit : R.fields = R.fields.take before.length ++
      R.fields[before.length] :: R.fields.drop (before.length + 1) := by
    rw [← List.drop_eq_getElem_cons hlt, List.take_append_drop]
  have hlength : (R.fields.take before.length).length = before.length :=
    List.length_take_of_le hlt.le
  rw [Record.named]
  conv_lhs => rw [hsplit]
  rw [namedBy, List.map_append, List.zip_append (by simpa using hlength), List.map_cons,
    List.zip_cons_cons, hname]
  rfl

namespace Record.Meaning

variable {R : Record α} (M : R.Meaning) {f : Field α} {fs : List (Field α)} {given : List String}
  {draft : α} {ms ms' : List (Units × Value)} {vs ws : List Value}

theorem only_perm (h : vs.Perm ws) : M.only given f vs = M.only given f ws := by
  rcases vs with _ | ⟨v, _ | ⟨v', vs⟩⟩
  · rw [List.nil_perm.1 h]
  · rw [List.singleton_perm.1 h]
  · have hlength := h.length_eq
    rcases ws with _ | ⟨w, _ | ⟨w', ws⟩⟩
    · simp at hlength
    · simp at hlength
    · rfl

theorem fill_perm (h : ms.Perm ms') : M.fill given ms fs draft = M.fill given ms' fs draft :=
  M.fill_congr fun _ _ => M.only_perm ((h.filter _).map _)

/-- A field whose name is given changes nothing. -/
theorem only_of_given {g : α → α} (hf : f.name ∈ given) (h : M.only given f vs = some g) :
    g = id := by
  rcases vs with _ | ⟨v, _ | ⟨w, vs⟩⟩
  · simpa [only, hf, eq_comm] using h
  · simp [only, hf] at h
  · simp [only] at h

/-- What a field that is given does to the draft may as well be done at the end. -/
theorem fill_given {name : String} {v : Value} {g : α → α} (hg : M.set name v = some g)
    (hgiven : name ∈ given) :
    M.fill given ms fs (g draft) = (M.fill given ms fs draft).map g := by
  induction fs generalizing draft with
  | nil => rfl
  | cons f fs ih =>
    rw [fill, fill]
    cases honly : M.only given f (valuesOf f.name ms) with
    | none => rfl
    | some h =>
      have hcommute : h (g draft) = g (h draft) := by
        by_cases hname : f.name = name
        · rw [M.only_of_given (hname ▸ hgiven) honly]
          rfl
        · exact M.only_commute hname honly hg draft
      rw [Option.bind_some, Option.bind_some, hcommute, ih]

/-- An object with a field at some place among its members. -/
theorem value_object_at (hf : f ∈ R.fields) {us : Units} (hname : Names us f.name)
    (before after : List (Units × Value)) :
    ∃ rest : Option α, ∀ v, M.value (.object (before ++ (us, v) :: after)) =
      (M.set f.name v).bind fun g => rest.map g := by
  by_cases hpaired : Paired (before ++ after)
  · refine ⟨M.fill [f.name] (before ++ after) R.fields R.draft, ?_⟩
    intro v
    have hfirst : (before ++ (us, v) :: after).Perm ((us, v) :: (before ++ after)) :=
      List.perm_middle
    have hall : Paired (before ++ (us, v) :: after) := by
      intro m hm
      rcases List.mem_cons.1 (hfirst.mem_iff.1 hm) with rfl | hm
      · exact ⟨_, hname⟩
      · exact hpaired m hm
    rw [M.value_object_eq hall, M.fill_perm hfirst, M.fill_cons M.nodup hf hname (by simp)]
    cases hset : M.set f.name v with
    | none => rfl
    | some g => exact M.fill_given hset List.mem_cons_self
  · -- a key with an unpaired surrogate is refused, whatever stands at the place
    refine ⟨none, ?_⟩
    intro v
    have hnone : M.value (.object (before ++ (us, v) :: after)) = none := by
      rw [Option.eq_none_iff_forall_ne_some]
      intro a ha
      refine hpaired fun m hm => M.paired_of_members ha m ?_
      rcases List.mem_append.1 hm with hm | hm
      · exact List.mem_append_left _ hm
      · exact List.mem_append_right _ (List.mem_cons_of_mem _ hm)
    rw [hnone]
    cases M.set f.name v <;> rfl

/-- A record with a field at one of its places: what the value does, done to what the rest makes. -/
theorem value_at (hf : f ∈ R.fields) {place : Value → Value} (h : R.GivesAt f.name place) :
    ∃ rest : Option α, ∀ v, M.value (place v) = (M.set f.name v).bind fun g => rest.map g := by
  cases h with
  | object before after hname => exact M.value_object_at hf hname before after
  | list before after hturn =>
    by_cases hlength : before.length + (after.length + 1) ≤ R.fields.length
    · obtain ⟨before', after', hnamed⟩ := Record.named_append after hturn
      obtain ⟨rest, hrest⟩ := M.value_object_at hf (names_unitsOfName f.name) before' after'
      refine ⟨rest, ?_⟩
      intro v
      rw [← M.value_named (by simpa using hlength), hnamed, hrest]
    · refine ⟨none, ?_⟩
      intro v
      have hnone : M.value (.list (before ++ v :: after)) = none :=
        M.elements_surplus (by simpa using hlength) R.draft
      rw [hnone]
      cases M.set f.name v <;> rfl

/-- **What stands at the place of a field is what the field gets.** -/
theorem readsAt {name : String} (hname : name ∈ R.fields.map Field.name) {place : Value → Value}
    (h : R.GivesAt name place) {t : Value → Option β} {put : β → α → α} {get : α → β}
    (hset : ∀ v, M.set name v = (t v).map put) (hget : ∀ b a, get (put b a) = b) :
    ReadsAt M.value place t fun a => some (get a) := by
  obtain ⟨f, hf, rfl⟩ := List.mem_map.1 hname
  obtain ⟨rest, hrest⟩ := M.value_at hf h
  simp only [hset] at hrest
  refine ⟨?_, ?_⟩
  · intro w v hw
    rw [hrest] at hw ⊢
    cases rest with
    | none => cases t w <;> simp at hw
    | some a => cases t v <;> simp
  · intro v a ha
    rw [hrest] at ha
    cases htv : t v with
    | none => simp [htv] at ha
    | some b =>
      cases rest with
      | none => simp [htv] at ha
      | some a' =>
        obtain rfl : put b a' = a := by simpa [htv] using ha
        rw [hget]

end Record.Meaning

/-! ### Natural numbers -/

/-- At the place exactly the literals of natural numbers up to the limit are taken, and the result
holds them as they are: if the document is decoded with something at the place, it is decoded with a
number there exactly if that has no sign, no fraction and no exponent and is at most the limit. -/
def TakesWhole {ε : Type} (decode : String → Except ε α) (place : Value → Value) (limit : Nat)
    (get : α → Option Nat) : Prop :=
  ∀ {w : Value} {n : Numeral} {document₀ document : String} {a₀ : α},
    (place w).SpelledBy document₀ → decode document₀ = .ok a₀ →
      (place (.number n)).SpelledBy document →
        ((∃ a, decode document = .ok a) ↔ n.negative = false ∧ n.fraction = [] ∧
          n.exponent = none ∧ ofDigits 0 n.whole ≤ limit) ∧
        ∀ a, decode document = .ok a → get a = some (ofDigits 0 n.whole)

/-- Where natural numbers are read, exactly those up to the limit are taken. -/
theorem ReadsAt.takesWhole {r : Reader α} {f : Value → Option α} {place : Value → Value}
    {limit : Nat} {get : α → Option Nat} (hr : r.Denotes f)
    (h : ReadsAt f place (Value.natural? limit) get) : TakesWhole r.decode place limit get := by
  intro w n document₀ document a₀ hspelled₀ hdecode₀ hspelled
  have hsome : (f (place w)).isSome := by
    rw [(hr.decode_eq_ok_iff hspelled₀).1 hdecode₀]
    rfl
  have hnatural : ∀ k, (Value.number n).natural? limit = some k ↔
      (n.negative = false ∧ n.fraction = [] ∧ n.exponent = none ∧ ofDigits 0 n.whole = k) ∧
        k ≤ limit := by
    intro k
    rw [Value.natural?_eq_some_iff, Value.IsNatural]
    simp
  constructor
  · simp only [hr.decode_eq_ok_iff hspelled, ← Option.isSome_iff_exists, h.accepts hsome]
    rw [Option.isSome_iff_exists]
    constructor
    · rintro ⟨k, hk⟩
      obtain ⟨⟨hsign, hfraction, hexponent, rfl⟩, hle⟩ := (hnatural k).1 hk
      exact ⟨hsign, hfraction, hexponent, hle⟩
    · rintro ⟨hsign, hfraction, hexponent, hle⟩
      exact ⟨_, (hnatural _).2 ⟨⟨hsign, hfraction, hexponent, rfl⟩, hle⟩⟩
  · intro a ha
    have hvalue := (hr.decode_eq_ok_iff hspelled).1 ha
    have hsome' : ((Value.number n).natural? limit).isSome :=
      (h.accepts hsome).1 (by rw [hvalue]; rfl)
    obtain ⟨k, hk⟩ := Option.isSome_iff_exists.1 hsome'
    rw [h.holds hvalue, hk, ((hnatural k).1 hk).1.2.2.2]

end ShaperDash.Json
