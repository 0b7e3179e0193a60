import ShaperDash.Proofs.Number.Shortest
import ShaperDash.Proofs.Scale.Hundredths

/-!
# What a label says

A label is read back as a numeral and the unit that its last letter stands for, without the code
that wrote it.  What the label of a number above a thousand says is the hundredths that are shown
of it; any other label says the number in full.

* `Label.read` : the numeral and the unit that a text spells.
* `read_scaleNumber` : **the label of a number above a thousand says how many hundredths of its
  unit are shown.**
* `read_scaleNumber_plain` : **any other label says the shortest decimal number for its number.**
-/

namespace ShaperDash

/-- What a label says: so many times a unit. -/
structure Label where
  numeral : ℚ
  unit : Nat
  deriving DecidableEq

/-- The unit that a letter stands for. -/
def letterUnit? : Char → Option Nat
  | 'K' => some 1000
  | 'M' => some 1000000
  | 'G' => some 1000000000
  | 'T' => some 1000000000000
  | _ => none

namespace Label

/-- The number that a label denotes. -/
def value (l : Label) : ℚ := l.numeral * l.unit

/-- The label that a text spells: a numeral, with the letter of a unit behind it or without. -/
def read (text : String) : Option Label :=
  match text.toList.getLast?.bind letterUnit? with
  | some unit => (readNumeral text.toList.dropLast).map fun x => ⟨x, unit⟩
  | none => (readNumeral text.toList).map fun x => ⟨x, 1⟩

end Label

variable {d : Datum} {s : Bool} {m u : Nat} {e : Int} {x : ℚ} {cs : List Char} {letter : Char}

/-! ### Reading -/

theorem letterUnit_of_isDigit (h : letter.isDigit = true) : letterUnit? letter = none := by
  unfold letterUnit?
  split
  all_goals first | exact absurd h (by decide) | rfl

theorem IsNumeral.getLast (h : IsNumeral cs x) : ∃ c, cs.getLast? = some c ∧ c.isDigit = true := by
  have hlast : ∀ ds, IsDigits ds → ∃ c, ds.getLast? = some c ∧ c.isDigit = true := by
    intro ds hds
    exact ⟨_, List.getLast?_eq_some_getLast hds.1, hds.2 _ (List.getLast_mem hds.1)⟩
  rcases h with ⟨h, -⟩ | ⟨whole, fraction, rfl, -, h, -⟩
  · exact hlast cs h
  · obtain ⟨c, hc, hdigit⟩ := hlast fraction h
    exact ⟨c, by rw [List.getLast?_append, List.getLast?_cons, hc]; rfl, hdigit⟩

theorem Label.read_numeral (h : IsNumeral cs x) (s : Bool) :
    Label.read (String.ofList (Datum.sign s ++ cs)) = some ⟨if s then -x else x, 1⟩ := by
  obtain ⟨c, hc, hdigit⟩ := h.getLast
  have hlast : (Datum.sign s ++ cs).getLast? = some c := by simp [hc]
  have hunit : (Datum.sign s ++ cs).getLast?.bind letterUnit? = none := by
    rw [hlast, Option.bind_some, letterUnit_of_isDigit hdigit]
  rw [Label.read, String.toList_ofList, hunit, h.readNumeral_sign]
  rfl

theorem Label.read_push (h : IsNumeral cs x) (hu : letterUnit? letter = some u) :
    Label.read ((String.ofList cs).push letter) = some ⟨x, u⟩ := by
  have hlist : ((String.ofList cs).push letter).toList = cs ++ [letter] := by simp
  have hunit : (cs ++ [letter]).getLast?.bind letterUnit? = some u := by simp [hu]
  have hread := h.readNumeral_sign false
  rw [Label.read, hlist, hunit, List.dropLast_concat]
  simp only [Datum.sign, Bool.false_eq_true, if_false, List.nil_append] at hread
  rw [hread]
  rfl

theorem letterUnit_of_mem : ∀ u ∈ scaleUnits, letterUnit? u.2 = some u.1 := by decide

/-! ### The labels -/

/-- The text of a number above a thousand. -/
theorem scaleNumber_eq (hx : d.OfSize false x) (hb : bracket x = some (u, letter))
    (hrange : x ≤ u * 2 ^ (1000 : Int)) :
    scaleNumber d = (String.ofList (digitsOf (shownHundredths u x / 10 ^ 2) ++
      '.' :: zeroPadded 2 (shownHundredths u x % 10 ^ 2))).push letter := by
  obtain ⟨hmem, -, -⟩ := bracket_spec hb
  obtain ⟨hu, hu'⟩ := unit_le _ hmem
  have hnumber : d.number? = some x := hx.number
  obtain ⟨m, e, hd, hsize⟩ := hundredths_ofSize hx (by omega) hu' hrange
  rw [scaleNumber, scaleUnit_eq hnumber, hb]
  simp only [hd, Datum.fixed, Datum.fixedUnits_eq, hsize]
  rfl

/-- **The label of a number above a thousand says how many hundredths of its unit are shown.** -/
theorem read_scaleNumber (hx : d.OfSize false x) (hb : bracket x = some (u, letter))
    (hrange : x ≤ u * 2 ^ (1000 : Int)) :
    Label.read (scaleNumber d) = some ⟨shownHundredths u x / 100, u⟩ := by
  have hunit := letterUnit_of_mem _ (bracket_spec hb).1
  have hnumeral := isNumeral_units 2 (shownHundredths u x) (by decide)
  rw [scaleNumber_eq hx hb hrange, Label.read_push hnumeral hunit]
  norm_num

theorem scaleNumber_plain (hx : d.number? = some x) (hle : x ≤ 1000) : scaleNumber d = d.plain := by
  rw [scaleNumber, scaleUnit_eq hx, bracket_eq_none.2 hle]

/-- The number that is written for `±m * 2 ^ e` in full. -/
def plainValue (s : Bool) (m : Nat) (e : Int) : ℚ :=
  if s then -(binary64.shortest .up m e).value else (binary64.shortest .up m e).value

/-- **Any other label says the shortest decimal number for its number.** -/
theorem read_scaleNumber_plain (hx : (Datum.finite s m e).number? = some x) (hle : x ≤ 1000) :
    Label.read (scaleNumber (.finite s m e)) = some ⟨plainValue s m e, 1⟩ := by
  rw [scaleNumber_plain hx hle, Datum.plain]
  exact Label.read_numeral (Decimal.isNumeral_positional _) s

/-! ### The numbers that words stand for -/

theorem canonical_of_number {word : Nat} (hx : (binary64.decode word).number? = some x) :
    ∃ s m e, binary64.decode word = .finite s m e ∧ binary64.Canonical m e ∧
      x = (if s then -scaled m e else scaled m e) ∧ x ≤ 2 ^ (1024 : Int) := by
  obtain ⟨s, m, e, hd, hvalue⟩ := Datum.eq_finite hx
  obtain ⟨hcanonical, hlast⟩ := Format.canonical_of_decode hd
  refine ⟨s, m, e, hd, hcanonical, hvalue, ?_⟩
  have hend : scaled m e ≤ 2 ^ (1024 : Int) := by
    refine hcanonical.scaled_lt.le.trans (zpow_le_zpow_right₀ one_le_two ?_)
    have : binary64.precision + binary64.maxExponent = 1024 := rfl
    omega
  rw [hvalue]
  cases s with
  | true => exact (neg_nonpos.2 (scaled_nonneg m e)).trans (two_zpow_pos _).le
  | false => exact hend

/-- A word for a number above a thousand, as the labels of such numbers need it. -/
theorem exists_bracket {word : Nat} (hx : (binary64.decode word).number? = some x)
    (h : 1000 < x) : (binary64.decode word).OfSize false x ∧
      ∃ u letter, bracket x = some (u, letter) ∧ x ≤ u * 2 ^ (1000 : Int) := by
  obtain ⟨s, m, e, hd, -, hvalue, hend⟩ := canonical_of_number hx
  refine ⟨⟨m, e, ?_⟩, ?_⟩
  · cases s with
    | true =>
      have hnonneg := scaled_nonneg m e
      rw [if_pos rfl] at hvalue
      linarith
    | false => exact ⟨hd, hvalue.symm⟩
  · cases hb : bracket x with
    | none => exact absurd (bracket_eq_none.1 hb) (not_le.2 h)
    | some unit => exact ⟨unit.1, unit.2, rfl, bracket_range hb hend⟩

end ShaperDash
