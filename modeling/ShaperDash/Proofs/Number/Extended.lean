import Mathlib.Order.WithBot
import ShaperDash.Proofs.Number.Bounds

/-!
# Data as extended numbers

A datum is a rational number or one of two infinities, unless it is no number at all.  Its
comparisons are those of extended numbers, which are ordered from the least to the greatest, so that
what is known of a linear order is known of data.

* `Datum.extended?` : the extended number that a datum is.
* `Datum.extended?_eq_none_iff` : only what is no number has none.
* `Datum.le_iff`, `Datum.le_total` : **data are compared as the extended numbers that they are.**
* `Format.round_ne_nan`, `Format.mul_ne_nan`, `Format.div_ne_nan` : operations that always give a
  number or an infinity.
-/

namespace ShaperDash

/-- Rational numbers, with an infinity below and one above all of them. -/
abbrev Extended : Type := WithBot (WithTop ℚ)

namespace Datum

/-- The extended number that a datum is, if it is one. -/
def extended? : Datum → Option Extended
  | .nan => none
  | .infinite s => some (if s then ⊥ else ⊤)
  | .finite s m e => some ((signed s m * 2 ^ e : ℚ) : WithTop ℚ)

variable {d d' : Datum} {x y : Extended}

theorem extended?_eq_none_iff : d.extended? = none ↔ d = .nan := by
  cases d <;> simp [extended?]

theorem exists_extended (h : d ≠ .nan) : ∃ x, d.extended? = some x :=
  Option.ne_none_iff_exists'.1 fun hnone => h (extended?_eq_none_iff.1 hnone)

/-- A natural number is the extended number that it is. -/
theorem extended?_natural (n : Nat) :
    (finite false n 0).extended? = some (((n : ℚ) : WithTop ℚ) : Extended) := by
  simp [extended?, signed]

/-- **Data are compared as the extended numbers that they are.** -/
theorem le_iff (h : d.extended? = some x) (h' : d'.extended? = some y) :
    d.le d' = true ↔ x ≤ y := by
  cases d with
  | nan => exact absurd h nofun
  | infinite s =>
    obtain rfl := Option.some.inj h
    cases d' with
    | nan => exact absurd h' nofun
    | infinite t =>
      obtain rfl := Option.some.inj h'
      cases s <;> cases t <;> simp [le]
    | finite t n e' =>
      obtain rfl := Option.some.inj h'
      cases s with
      | true => exact iff_of_true rfl bot_le
      | false =>
        exact iff_of_false nofun (not_le.2 (WithBot.coe_lt_coe.2 (WithTop.coe_lt_top _)))
  | finite s m e =>
    obtain rfl := Option.some.inj h
    cases d' with
    | nan => exact absurd h' nofun
    | infinite t =>
      obtain rfl := Option.some.inj h'
      cases t with
      | true => exact iff_of_false nofun (not_le.2 (WithBot.bot_lt_coe _))
      | false => exact iff_of_true rfl le_top
    | finite t n e' =>
      obtain rfl := Option.some.inj h'
      rw [le_finite_iff, WithBot.coe_le_coe, WithTop.coe_le_coe]

/-- What is no number is not compared with anything. -/
theorem exists_extended_of_le (h : d.le d' = true) :
    ∃ x y, d.extended? = some x ∧ d'.extended? = some y ∧ x ≤ y := by
  have hd : d ≠ .nan := by
    rintro rfl
    exact absurd h nofun
  have hd' : d' ≠ .nan := by
    rintro rfl
    cases d <;> exact absurd h nofun
  obtain ⟨x, hx⟩ := exists_extended hd
  obtain ⟨y, hy⟩ := exists_extended hd'
  exact ⟨x, y, hx, hy, (le_iff hx hy).1 h⟩

/-- Of two numbers or infinities, one is at most the other. -/
theorem le_total (h : d ≠ .nan) (h' : d' ≠ .nan) : d.le d' = true ∨ d'.le d = true := by
  obtain ⟨x, hx⟩ := exists_extended h
  obtain ⟨y, hy⟩ := exists_extended h'
  rw [le_iff hx hy, le_iff hy hx]
  exact LinearOrder.le_total x y

end Datum

namespace Format

variable {f : Format}

theorem round_ne_nan (s : Bool) (num den : Nat) : f.round s num den ≠ .nan := by
  simp only [round]
  split_ifs <;> simp

theorem mul_ne_nan {d : Datum} {s : Bool} {m : Nat} {e : Int} (hd : d ≠ .nan) (hm : m ≠ 0) :
    f.mul d (.finite s m e) ≠ .nan := by
  cases d with
  | nan => exact absurd rfl hd
  | infinite t =>
    rw [mul, if_neg hm]
    exact nofun
  | finite t n e' => exact round_ne_nan _ _ _

theorem div_ne_nan {d : Datum} {s : Bool} {m : Nat} {e : Int} (hd : d ≠ .nan) (hm : m ≠ 0) :
    f.div d (.finite s m e) ≠ .nan := by
  cases d with
  | nan => exact absurd rfl hd
  | infinite t => exact nofun
  | finite t n e' =>
    rw [div, if_neg hm]
    exact round_ne_nan _ _ _

theorem convert_ne_nan {d : Datum} (hd : d ≠ .nan) : f.convert d ≠ .nan := by
  cases d with
  | nan => exact absurd rfl hd
  | infinite s => exact nofun
  | finite s m e => exact round_ne_nan _ _ _

end Format

end ShaperDash
