import Mathlib.Data.List.Nodup
import ShaperDash.Palette
import ShaperDash.Proofs.Number.Extended

/-!
# Brackets of a palette

The brackets of a palette divide the extended numbers into intervals.  Looking for the first bracket
that a score does not exceed finds the one interval that the score lies in, since the bounds ascend;
and since no two brackets have the same color, the color tells the bracket.

* `Palette.Contains` : an extended number lies in the interval of a bracket.
* `Palette.contains_iff` : **every score lies in one interval, that of the first bracket that it
  does not exceed**.
* `Palette.bracketOf_swatch` : the color of a score tells its bracket.
* `Palette.bracketOf_mono` : **a higher score has no lower bracket.**
-/

namespace ShaperDash

namespace Palette

variable {p : Palette} {d d' : Datum} {x : Extended} {i : Nat}

/-- The swatches in ascending order, that above all brackets last. -/
def swatches (p : Palette) : List Swatch := p.brackets.map (·.2) ++ [p.top]

/-- The bound of a bracket as an extended number. -/
def bound (b : Nat × Swatch) : Extended := ((b.1 : ℚ) : WithTop ℚ)

/-- The extended number lies in the interval of a bracket: above the bound of the bracket before it,
and at most at its own.  The first bracket has no bound below, that above all others none above. -/
structure Contains (p : Palette) (i : Nat) (x : Extended) : Prop where
  number : i < p.swatches.length
  above : ∀ b, i ≠ 0 → p.brackets[i - 1]? = some b → bound b < x
  upTo : ∀ b, p.brackets[i]? = some b → x ≤ bound b

/-- The number of the first bracket that the score does not exceed. -/
def rank (p : Palette) (score : Datum) : Nat :=
  p.brackets.findIdx fun b => score.le (.finite false b.1 0)

/-- The number of the bracket that has the color. -/
def bracketOf (p : Palette) (c : Rgb) : Nat := (p.swatches.map (·.rgb)).idxOf c

/-! ### Intervals -/

theorem le_bound_iff (hx : d.extended? = some x) (b : Nat × Swatch) :
    d.le (.finite false b.1 0) = true ↔ x ≤ bound b :=
  Datum.le_iff hx (Datum.extended?_natural b.1)

theorem length_swatches (p : Palette) : p.swatches.length = p.brackets.length + 1 := by
  rw [swatches, List.length_append, List.length_map, List.length_singleton]

/-- The bounds ascend. -/
theorem bound_le {j : Nat} (hj : j < p.brackets.length) (hi : i < p.brackets.length) (h : i ≤ j) :
    bound p.brackets[i] ≤ bound p.brackets[j] := by
  have hsorted : (p.brackets.map (·.1)).Pairwise (· ≤ ·) := by cases p <;> decide
  rw [List.pairwise_map] at hsorted
  rcases h.eq_or_lt with rfl | hlt
  · exact le_rfl
  · have hle := List.pairwise_iff_getElem.1 hsorted i j hi hj hlt
    rw [bound, bound, WithBot.coe_le_coe, WithTop.coe_le_coe]
    exact_mod_cast hle

/-- **Every score lies in one interval**, that of the first bracket that it does not exceed. -/
theorem contains_iff (hx : d.extended? = some x) : p.Contains i x ↔ i = p.rank d := by
  have hle : p.rank d ≤ p.brackets.length := List.findIdx_le_length
  constructor
  · intro h
    have hi : i < p.brackets.length + 1 := h.number.trans_eq (length_swatches p)
    rcases lt_trichotomy i (p.rank d) with hlt | heq | hgt
    · -- a bracket before the first one that the score does not exceed
      have hexceeds := List.not_of_lt_findIdx hlt
      rw [(le_bound_iff hx _).2 (h.upTo _ (List.getElem?_eq_getElem _))] at hexceeds
      exact absurd hexceeds nofun
    · exact heq
    · -- the bounds ascend, so the score exceeds all before its interval
      have hrank : p.rank d < p.brackets.length := by omega
      have hnot : x ≤ bound p.brackets[p.rank d] := by
        rw [← le_bound_iff hx]
        exact List.findIdx_getElem (w := hrank)
      have habove := h.above _ (by omega) (List.getElem?_eq_getElem (show i - 1 < _ by omega))
      have hascend := bound_le (p := p) (show i - 1 < _ by omega) hrank (by omega)
      exact absurd (hnot.trans hascend) (not_le.2 habove)
  · rintro rfl
    refine ⟨(Nat.lt_succ_of_le hle).trans_eq (length_swatches p).symm, ?_, ?_⟩
    · intro b hne hb
      obtain ⟨hlt, rfl⟩ := List.getElem?_eq_some_iff.1 hb
      have hexceeds := List.not_of_lt_findIdx (show p.rank d - 1 < p.rank d by omega)
      rw [← not_le, ← le_bound_iff hx, hexceeds]
      exact Bool.false_ne_true
    · intro b hb
      obtain ⟨hlt, rfl⟩ := List.getElem?_eq_some_iff.1 hb
      rw [← le_bound_iff hx]
      exact List.findIdx_getElem (w := hlt)

/-! ### Colors -/

/-- A score has the swatch of its bracket. -/
theorem swatches_rank (p : Palette) (d : Datum) : p.swatches[p.rank d]? = some (p.swatch d) := by
  have hle : p.rank d ≤ p.brackets.length := List.findIdx_le_length
  have hfirst : p.brackets.find? (fun b => d.le (.finite false b.1 0)) = p.brackets[p.rank d]? :=
    List.find?_eq_getElem?_findIdx
  rw [swatch, hfirst]
  rcases hle.eq_or_lt with heq | hlt
  · rw [List.getElem?_eq_none heq.ge, swatches, List.getElem?_append_right (by simp [heq])]
    simp [heq]
  · rw [List.getElem?_eq_getElem hlt, swatches, List.getElem?_append_left (by simpa using hlt),
      List.getElem?_map, List.getElem?_eq_getElem hlt, Option.map_some]

/-- **The color of a score tells its bracket**, as no two brackets have the same one. -/
theorem bracketOf_swatch (p : Palette) (d : Datum) : p.bracketOf (p.swatch d).rgb = p.rank d := by
  have hnodup : (p.swatches.map (·.rgb)).Nodup := by cases p <;> decide
  obtain ⟨hlt, hswatch⟩ := List.getElem?_eq_some_iff.1 (p.swatches_rank d)
  have hlt' : p.rank d < (p.swatches.map (·.rgb)).length := by simpa using hlt
  have hrgb : (p.swatches.map (·.rgb))[p.rank d] = (p.swatch d).rgb := by
    rw [List.getElem_map, hswatch]
  rw [bracketOf, ← hrgb, hnodup.idxOf_getElem]

/-- **A higher score has no lower bracket.** -/
theorem bracketOf_mono (p : Palette) (h : d.le d' = true) :
    p.bracketOf (p.swatch d).rgb ≤ p.bracketOf (p.swatch d').rgb := by
  obtain ⟨x, y, hx, hy, hxy⟩ := Datum.exists_extended_of_le h
  rw [bracketOf_swatch, bracketOf_swatch]
  refine List.findIdx_le_findIdx fun b _ hb => ?_
  rw [le_bound_iff hy] at hb
  exact (le_bound_iff hx b).2 (hxy.trans hb)

end Palette

end ShaperDash
