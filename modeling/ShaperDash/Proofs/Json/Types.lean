import Mathlib.Data.List.Forall2
import ShaperDash.Proofs.Json.Fields

/-!
# Values of a type

What a value has to be for a reader to take it, said of the value alone.

* `Value.IsNatural`, `Value.IsPair`, `Value.IsText`, `Value.IsSingle` : the values of a type and
  what they stand for.
* `Value.natural?_eq_some_iff`, … : the readers take exactly the values of their type.
* `Once`, `AtMostOnce` : how often a name may be given, and with what values.
* `Correspond` : the same values but for their order, up to a relation.
-/

namespace ShaperDash.Json

variable {α β : Type}

/-! ### Scalars and pairs -/

/-- The value is the literal of a natural number: digits and nothing else. -/
def Value.IsNatural (v : Value) (k : Nat) : Prop :=
  ∃ n : Numeral, v = .number n ∧ n.negative = false ∧ n.fraction = [] ∧ n.exponent = none ∧
    ofDigits 0 n.whole = k

/-- The value is a list of the literals of two natural numbers. -/
def Value.IsPair (v : Value) (j k : Nat) : Prop :=
  ∃ x y : Value, v = .list [x, y] ∧ x.IsNatural j ∧ y.IsNatural k

/-- The value is a string of these characters. -/
def Value.IsText (v : Value) (s : String) : Prop := ∃ us, v = .text us ∧ Names us s

/-- The value is a number that is not out of range, which rounds to `d`. -/
def Value.IsSingle (v : Value) (d : Datum) : Prop :=
  ∃ (n : Numeral) (x : Number), v = .number n ∧ n.value = .ok x ∧ d = x.single

theorem Numeral.isWhole_iff {n : Numeral} :
    n.isWhole = true ↔ n.fraction = [] ∧ n.exponent = none := by
  simp [Numeral.isWhole]

theorem Value.natural?_eq_some_iff {v : Value} {limit k : Nat} :
    v.natural? limit = some k ↔ v.IsNatural k ∧ k ≤ limit := by
  cases v with
  | number n =>
    simp only [Value.natural?, Numeral.natural?, Value.IsNatural, Option.ite_none_right_eq_some,
      Option.some.injEq, Numeral.isWhole_iff, Value.number.injEq]
    constructor
    · rintro ⟨⟨hn, ⟨hf, hx⟩, hl⟩, rfl⟩
      exact ⟨⟨n, rfl, hn, hf, hx, rfl⟩, hl⟩
    · rintro ⟨⟨_, rfl, hn, hf, hx, rfl⟩, hl⟩
      exact ⟨⟨hn, ⟨hf, hx⟩, hl⟩, rfl⟩
  | _ => simp [Value.natural?, Value.IsNatural]

/-- A word is the natural number that it stands for. -/
theorem Value.word?_eq_some_iff {size : Nat} {ofNat : Nat → α} {toNat : α → Nat}
    (hlt : ∀ c, toNat c < size) (hof : ∀ c, ofNat (toNat c) = c)
    (hto : ∀ k < size, toNat (ofNat k) = k) {v : Value} {c : α} :
    (v.natural? (size - 1)).map ofNat = some c ↔ v.IsNatural (toNat c) := by
  have hpos : 0 < size := Nat.zero_lt_of_lt (hlt c)
  simp only [Option.map_eq_some_iff, Value.natural?_eq_some_iff]
  constructor
  · rintro ⟨k, ⟨hv, hk⟩, rfl⟩
    rwa [hto k (Nat.lt_of_le_sub_one hpos hk)]
  · exact fun hv => ⟨toNat c, ⟨hv, Nat.le_sub_one_of_lt (hlt c)⟩, hof c⟩

theorem Value.word32?_eq_some_iff {v : Value} {c : UInt32} :
    v.word32? = some c ↔ v.IsNatural c.toNat :=
  word?_eq_some_iff UInt32.toNat_lt (fun _ => UInt32.ofNat_toNat)
    fun _ => UInt32.toNat_ofNat_of_lt'

theorem Value.word64?_eq_some_iff {v : Value} {c : UInt64} :
    v.word64? = some c ↔ v.IsNatural c.toNat :=
  word?_eq_some_iff UInt64.toNat_lt (fun _ => UInt64.ofNat_toNat)
    fun _ => UInt64.toNat_ofNat_of_lt'

/-- Two naturals that `f` and `g` take are taken from a list of two. -/
theorem Value.pair?_eq_some_iff {f : Value → Option α} {g : Value → Option β} {a : α} {b : β}
    {j k : Nat} {v : Value} (hf : ∀ x, f x = some a ↔ x.IsNatural j)
    (hg : ∀ y, g y = some b ↔ y.IsNatural k) : v.pair? f g = some (a, b) ↔ v.IsPair j k := by
  unfold Value.pair? Value.IsPair
  split
  · next x y => simp [Option.bind_eq_some_iff, hf, hg]
  · next h =>
    simp only [reduceCtorEq, false_iff]
    rintro ⟨x, y, rfl, -⟩
    exact h x y rfl

theorem Value.text?_eq_some_iff {v : Value} {s : String} :
    v.text? = some s ↔ v.IsText s := by
  cases v with
  | text us =>
    simp only [Value.text?, Value.IsText, Option.map_eq_some_iff, Value.text.injEq]
    constructor
    · rintro ⟨cs, hcs, rfl⟩
      exact ⟨us, rfl, by rw [Names, hcs, String.toList_ofList]⟩
    · rintro ⟨_, rfl, hn⟩
      exact ⟨s.toList, hn, String.ofList_toList⟩
  | _ => simp [Value.text?, Value.IsText]

theorem Value.single?_eq_some_iff {v : Value} {d : Datum} :
    v.single? = some d ↔ v.IsSingle d := by
  cases v with
  | number n =>
    simp only [Value.single?, Value.IsSingle, Option.map_eq_some_iff, Value.number.injEq,
      toOption_eq_some_iff]
    constructor
    · rintro ⟨x, hx, rfl⟩
      exact ⟨n, x, rfl, hx, rfl⟩
    · rintro ⟨_, x, rfl, hx, rfl⟩
      exact ⟨x, hx, rfl⟩
  | _ => simp [Value.single?, Value.IsSingle]

theorem Value.boolean?_eq_some_iff {v : Value} {b : Bool} :
    v.boolean? = some b ↔ v = .boolean b := by
  cases v <;> simp [Value.boolean?]

/-- Only a list of values of the right type is a list of that type. -/
theorem Value.list?_eq_some_iff {f : Value → Option α} {v : Value} {as : List α} :
    v.list? f = some as ↔ ∃ vs, v = .list vs ∧ List.Forall₂ (fun v a => f v = some a) vs as := by
  have hmap : ∀ vs : List Value,
      vs.mapM f = some as ↔ List.Forall₂ (fun v a => f v = some a) vs as := by
    intro vs
    induction vs generalizing as with
    | nil => simp [List.forall₂_nil_left_iff, eq_comm]
    | cons v vs ih =>
      rw [List.mapM_cons, List.forall₂_cons_left_iff]
      simp only [Option.bind_eq_bind, Option.bind_eq_some_iff, ih, Option.pure_def,
        Option.some.injEq]
      constructor
      · rintro ⟨a, ha, as, has, rfl⟩
        exact ⟨a, as, ha, has, rfl⟩
      · rintro ⟨a, as, ha, has, rfl⟩
        exact ⟨a, ha, as, has, rfl⟩
  cases v with
  | list vs => simpa [Value.list?] using hmap vs
  | _ => simp [Value.list?]

/-! ### Names that are given once -/

/-- What `f` makes of the only value. -/
def once (f : Value → Option α) : List Value → Option α
  | [v] => f v
  | _ => none

/-- What `f` makes of the only value, if there is one. -/
def atMostOnce (absent : α) (f : Value → Option α) : List Value → Option α
  | [] => some absent
  | [v] => f v
  | _ => none

/-- The name is given once, with such a value. -/
def Once (name : String) (ms : List (Units × Value)) (p : Value → Prop) : Prop :=
  ∃ v, valuesOf name ms = [v] ∧ p v

/-- The name is not given, and `absent` holds, or it is given once, with such a value. -/
def AtMostOnce (name : String) (ms : List (Units × Value)) (absent : Prop) (p : Value → Prop) :
    Prop :=
  (valuesOf name ms = [] ∧ absent) ∨ Once name ms p

theorem once_eq_some_iff {f : Value → Option α} {name : String} {ms : List (Units × Value)}
    {a : α} : once f (valuesOf name ms) = some a ↔ Once name ms fun v => f v = some a := by
  unfold Once
  rcases valuesOf name ms with _ | ⟨v, _ | ⟨w, vs⟩⟩ <;> simp [once]

theorem atMostOnce_eq_some_iff {f : Value → Option α} {name : String}
    {ms : List (Units × Value)} {absent a : α} :
    atMostOnce absent f (valuesOf name ms) = some a ↔
      AtMostOnce name ms (a = absent) fun v => f v = some a := by
  unfold AtMostOnce Once
  rcases valuesOf name ms with _ | ⟨v, _ | ⟨w, vs⟩⟩ <;> simp [atMostOnce, eq_comm]

theorem Once.congr {name : String} {ms : List (Units × Value)} {p q : Value → Prop}
    (h : ∀ v ∈ valuesOf name ms, p v ↔ q v) : Once name ms p ↔ Once name ms q := by
  refine exists_congr fun v => and_congr_right fun hv => h v ?_
  rw [hv]
  exact List.mem_singleton_self v

theorem AtMostOnce.congr {name : String} {ms : List (Units × Value)} {absent : Prop}
    {p q : Value → Prop} (h : ∀ v ∈ valuesOf name ms, p v ↔ q v) :
    AtMostOnce name ms absent p ↔ AtMostOnce name ms absent q :=
  or_congr_right (Once.congr h)

/-- The values correspond one to one, in whatever order they come. -/
def Correspond (r : Value → Value → Prop) (vs ws : List Value) : Prop :=
  ∃ vs' ws', vs.Perm vs' ∧ List.Forall₂ r vs' ws' ∧ ws'.Perm ws

section

variable {r : Value → Value → Prop} {name : String} {ms ms' : List (Units × Value)}
  {absent : Prop} {p q : Value → Prop}

theorem Correspond.symm {vs ws : List Value} (h : Correspond r vs ws)
    (hr : ∀ v w, r v w → r w v) : Correspond r ws vs := by
  obtain ⟨vs', ws', hv, hvw, hw⟩ := h
  exact ⟨ws', vs', hw.symm, .flip (hvw.imp hr), hv.symm⟩

theorem Once.correspond (h : Once name ms p)
    (hc : Correspond r (valuesOf name ms) (valuesOf name ms')) (hr : ∀ v w, r v w → p v → q w) :
    Once name ms' q := by
  obtain ⟨v, hv, hp⟩ := h
  obtain ⟨vs, ws, hvs, hvw, hws⟩ := hc
  -- the only value corresponds to the only value
  rw [hv] at hvs
  obtain rfl := List.perm_singleton.1 hvs.symm
  obtain ⟨w, _, hw, hnil, rfl⟩ := List.forall₂_cons_left_iff.1 hvw
  obtain rfl := List.forall₂_nil_left_iff.1 hnil
  exact ⟨w, List.perm_singleton.1 hws.symm, hr v w hw hp⟩

theorem AtMostOnce.correspond (h : AtMostOnce name ms absent p)
    (hc : Correspond r (valuesOf name ms) (valuesOf name ms')) (hr : ∀ v w, r v w → p v → q w) :
    AtMostOnce name ms' absent q := by
  obtain ⟨hnone, ha⟩ | h := h
  · obtain ⟨vs, ws, hvs, hvw, hws⟩ := hc
    rw [hnone] at hvs
    obtain rfl := List.perm_nil.1 hvs.symm
    obtain rfl := List.forall₂_nil_left_iff.1 hvw
    exact .inl ⟨List.perm_nil.1 hws.symm, ha⟩
  · exact .inr (h.correspond hc hr)

end

/-! ### Records of values of a type -/

namespace Record.Meaning

variable {R : Record α} (M : R.Meaning) {f : Field α} {fs : List (Field α)}
  {t : Value → Option β} {put : β → α → α} {draft : α} {ms : List (Units × Value)}

/-- A required field takes the only value under its name. -/
theorem fill_once (hr : f.required = true) (hs : ∀ v, M.set f.name v = (t v).map put) :
    M.fill [] ms (f :: fs) draft =
      (once t (valuesOf f.name ms)).bind fun b => M.fill [] ms fs (put b draft) := by
  rw [fill]
  rcases valuesOf f.name ms with _ | ⟨v, _ | ⟨w, vs⟩⟩
  · simp [only, once, hr]
  · cases ht : t v <;> simp [only, once, hs, ht]
  · rfl

/-- A field that may be left out keeps what the draft says if there is no value. -/
theorem fill_atMostOnce {absent : β} (hr : f.required = false)
    (hs : ∀ v, M.set f.name v = (t v).map put) (ha : put absent draft = draft) :
    M.fill [] ms (f :: fs) draft =
      (atMostOnce absent t (valuesOf f.name ms)).bind fun b => M.fill [] ms fs (put b draft) := by
  rw [fill]
  rcases valuesOf f.name ms with _ | ⟨v, _ | ⟨w, vs⟩⟩
  · simp [only, atMostOnce, hr, ha]
  · cases ht : t v <;> simp [only, atMostOnce, hs, ht]
  · rfl

end Record.Meaning

end ShaperDash.Json
