import Mathlib.Tactic.Ring
import ShaperDash.Proofs.Screen.Cells
import ShaperDash.Proofs.Screen.Pasted

/-!
# The bars of a sparkline

A sparkline shows a rate in each column, from the left, as a bar that is to the height of the
rectangle as the rate is to the greatest one.

* `Sparkline.Shows` : what a rectangle shows if its columns are the bars of some rates.
* `Sparkline.draw_shows` : a sparkline shows the first of its rates, as many as it has columns.
* `Sparkline.map_level_eq` : a bar is full blocks, one block in part and blanks.
* `Sparkline.bars_to_scale` : **bars are to scale, to an eighth of a cell.**
-/

namespace ShaperDash

open Picture

namespace Sparkline

variable {style : SparklineStyle} {rates : List UInt64} {now greatest : UInt64} {r : Region}
  {rows n : Nat}

/-! ### Cells -/

/-- The cell in row `k` from below of a column with a bar of so many eighths, or with none. -/
def barCell (color : Rgb) (k : Nat) : Option Nat → Cell
  | some n => ⟨[level (n - 8 * k)], .rgb color, .rgb Theme.backdrop, false⟩
  | none => ⟨[' '], .reset, .rgb Theme.backdrop, false⟩

/-- The rectangle shows some rates: its columns from the left are their bars, those behind them are
empty. -/
def Shows (p : Picture) (color : Rgb) (r : Region) (greatest : UInt64)
    (rates : List UInt64) : Prop :=
  ∀ i < r.width, ∀ k < r.height,
    p.cell (r.x + i) (r.y + (r.height - 1 - k)) =
      barCell color k (rates[i]?.map fun rate => eighths rate greatest r.height)

theorem marks_bar (color : Rgb) (n : Nat) {k : Nat} (hk : k < r.height) :
    (bar color r n).marks r.x (r.y + (r.height - 1 - k)) =
      [.put [level (n - 8 * k)] (.ofFg color)] := by
  refine marks_range hk fun j hj => ?_
  dsimp only
  omega

/-- A bar stays in its column. -/
theorem marks_bar_of_ne (color : Rgb) (n : Nat) {x y : Nat} (hx : r.x ≠ x) :
    (bar color r n).marks x y = [] := by
  refine marks_eq_nil fun s hs h => ?_
  obtain ⟨k, -, rfl⟩ := List.mem_map.1 hs
  exact absurd h hx

/-- In each column only its own bar is drawn. -/
theorem marks_bars {i k : Nat} (hi : i < r.width) (hk : k < r.height) :
    (bars style rates r).marks (r.x + i) (r.y + (r.height - 1 - k)) =
      (rates[i]?.map fun rate =>
        [Mark.put [level (eighths rate (peak rates) r.height - 8 * k)]
          (.ofFg style.bar)]).getD [] := by
  have hnumbered := marks_numbered (l := shown rates r.width) (i := i)
    (f := fun rate i => bar style.bar (r.column i) (eighths rate (peak rates) r.height))
    (x := r.x + i) (y := r.y + (r.height - 1 - k))
    fun rate j hj => marks_bar_of_ne _ _ (by simp only [Region.column]; omega)
  refine hnumbered.trans ?_
  rw [shown, List.getElem?_take_of_lt hi]
  cases rates[i]? with
  | none => rfl
  | some rate => exact marks_bar (r := r.column i) style.bar _ hk

/-- A sparkline shows the first of its rates, as many as it has columns. -/
theorem draw_shows (style : SparklineStyle) (rates : List UInt64) (now : UInt64) (r : Region) :
    Shows (draw style rates now r) style.bar r.inner (peak rates)
      (rates.take r.inner.width) := by
  intro i hi k hk
  have hinside : r.inner.Covers (r.inner.x + i) (r.inner.y + (r.inner.height - 1 - k)) := by
    simp only [Region.Covers]
    omega
  rw [cell, draw, marks_append, Block.marks_inner hinside, marks_bars hi hk,
    List.getElem?_take_of_lt hi]
  cases rates[i]? with
  | none => rfl
  | some rate => rfl

/-! ### Heights -/

theorem toNat_foldl_max (rates : List UInt64) (first : UInt64) :
    (rates.foldl max first).toNat = (rates.map UInt64.toNat).foldl max first.toNat := by
  induction rates generalizing first with
  | nil => rfl
  | cons rate rates ih => rw [List.foldl_cons, ih, UInt64.toNat_max, List.map_cons, List.foldl_cons]

/-- The peak is the greatest rate, or one if that is more. -/
theorem max?_rates (rates : List UInt64) :
    (1 :: rates.map UInt64.toNat).max? = some (peak rates).toNat := by
  rw [List.max?_cons', peak, toNat_foldl_max]
  rfl

theorem one_le_peak (rates : List UInt64) : 1 ≤ (peak rates).toNat :=
  (List.max?_eq_some_iff.1 (max?_rates rates)).2 1 List.mem_cons_self

theorem toNat_le_peak {rate : UInt64} (h : rate ∈ rates) :
    rate.toNat ≤ (peak rates).toNat :=
  (List.max?_eq_some_iff.1 (max?_rates rates)).2 _ (List.mem_cons_of_mem _ (List.mem_map_of_mem h))

/-- A rate that no other one is greater than is the peak, unless it is zero. -/
theorem toNat_eq_peak {rate : UInt64} (h : rate ∈ rates) (hpos : rate ≠ 0)
    (hmost : ∀ rate' ∈ rates, rate' ≤ rate) : rate.toNat = (peak rates).toNat := by
  have hle := toNat_le_peak h
  have hone : 1 ≤ rate.toNat := by
    by_contra hzero
    exact hpos (UInt64.toNat_inj.1 (Nat.lt_one_iff.1 (Nat.lt_of_not_le hzero)))
  obtain hpeak | hpeak := List.mem_cons.1 (List.max?_eq_some_iff.1 (max?_rates rates)).1
  · omega
  · obtain ⟨rate', hmem, hrate'⟩ := List.mem_map.1 hpeak
    have hge := UInt64.le_iff_toNat_le.1 (hmost rate' hmem)
    omega

/-- As long as no product is greater than a word, the bar is the whole part of the exact
proportion. -/
theorem eighths_eq {rate : UInt64} (hrate : rate.toNat ≤ greatest.toNat)
    (hword : 8 * rows * greatest.toNat < 2 ^ 64) :
    eighths rate greatest rows = 8 * rows * rate.toNat / greatest.toNat := by
  simp only [eighths, UInt64.toNat_div, UInt64.toNat_mul, UInt64.toNat_ofNat']
  obtain hzero | hpos := Nat.eq_zero_or_pos rate.toNat
  · simp [hzero]
  · have hrows : rows < 2 ^ 64 :=
      calc rows ≤ 8 * rows := Nat.le_mul_of_pos_left rows (by decide)
        _ ≤ 8 * rows * greatest.toNat := Nat.le_mul_of_pos_right _ (Nat.lt_of_lt_of_le hpos hrate)
        _ < 2 ^ 64 := hword
    have hscaled : 8 * rows * rate.toNat < 2 ^ 64 :=
      Nat.lt_of_le_of_lt (Nat.mul_le_mul_left _ hrate) hword
    have hproduct : rate.toNat * rows * 8 = 8 * rows * rate.toNat := by ring
    rw [Nat.mod_eq_of_lt hrows, Nat.mod_eq_of_lt (a := rate.toNat * rows) (by omega), ← hproduct]
    change rate.toNat * rows * 8 % 2 ^ 64 / greatest.toNat = _
    rw [Nat.mod_eq_of_lt (by omega)]

/-- A column that is filled to so many eighths, from the bottom up: full blocks, then a block that
is filled in part, if there is one, then blanks. -/
def filledColumn (rows eighths : Nat) : List Char :=
  let full := List.replicate (eighths / 8) (level 8)
  let part := if eighths % 8 = 0 then [] else [level (eighths % 8)]
  (full ++ part).rightpad rows (level 0)

theorem level_of_le (h : 8 ≤ n) : level n = level 8 := by
  obtain ⟨k, rfl⟩ := Nat.exists_eq_add_of_le' h
  rfl

theorem filledColumn_add_eight (rows n : Nat) :
    filledColumn (rows + 1) (n + 8) = level 8 :: filledColumn rows n := by
  have hfull : (n + 8) / 8 = n / 8 + 1 := Nat.add_div_right n (by decide)
  have hpart : (n + 8) % 8 = n % 8 := Nat.add_mod_right n 8
  simp only [filledColumn, hfull, hpart, List.replicate_succ, List.rightpad, List.cons_append,
    List.length_cons, Nat.add_sub_add_right]

theorem filledColumn_of_lt (rows : Nat) (h : n < 8) :
    filledColumn (rows + 1) n = level n :: List.replicate rows (level 0) := by
  rw [filledColumn, Nat.div_eq_of_lt h, Nat.mod_eq_of_lt h]
  split_ifs with hzero
  · rw [hzero]
    rfl
  · rfl

/-- The levels of a bar, row by row, make a column that is filled as far as the bar is high. -/
theorem map_level_eq (h : n ≤ 8 * rows) :
    (List.range rows).map (fun k => level (n - 8 * k)) = filledColumn rows n := by
  induction rows generalizing n with
  | zero =>
    obtain rfl : n = 0 := by omega
    rfl
  | succ rows ih =>
    rw [List.range_succ_eq_map, List.map_cons, List.map_map]
    by_cases hfull : 8 ≤ n
    · obtain ⟨m, rfl⟩ := Nat.exists_eq_add_of_le' hfull
      have hbelow : level (m + 8 - 8 * 0) = level 8 := level_of_le (by omega)
      have habove : (fun k => level (m + 8 - 8 * k)) ∘ Nat.succ = fun k => level (m - 8 * k) := by
        funext k
        exact congrArg level (by simp only [Nat.succ_eq_add_one]; omega)
      rw [hbelow, habove, ih (by omega), filledColumn_add_eight]
    · have habove : (fun k => level (n - 8 * k)) ∘ Nat.succ = fun _ => level 0 := by
        funext k
        exact congrArg level (by simp only [Nat.succ_eq_add_one]; omega)
      rw [habove, filledColumn_of_lt rows (by omega), List.map_const', List.length_range]
      rfl

theorem filledColumn_zero (rows : Nat) : filledColumn rows 0 = List.replicate rows (level 0) := rfl

theorem filledColumn_full (rows : Nat) :
    filledColumn rows (8 * rows) = List.replicate rows (level 8) := by
  simp [filledColumn, List.rightpad]

/-! ### Columns -/

/-- The symbols in column `i` of a rectangle, from the bottom up. -/
def column (p : Picture) (r : Region) (i : Nat) : List (List Char) :=
  (List.range r.height).map fun k => (p.cell (r.x + i) (r.y + (r.height - 1 - k))).symbol

variable {p : Picture} {color : Rgb} {i : Nat}

/-- A rate that is shown fills its column in proportion. -/
theorem column_filled {rate : UInt64} (h : Shows p color r greatest rates) (hi : i < r.width)
    (hrate : rates[i]? = some rate) (hle : rate.toNat ≤ greatest.toNat)
    (hword : 8 * r.height * greatest.toNat < 2 ^ 64) :
    column p r i =
      (filledColumn r.height (8 * r.height * rate.toNat / greatest.toNat)).map fun c => [c] := by
  have hbar : 8 * r.height * rate.toNat / greatest.toNat ≤ 8 * r.height := by
    refine Nat.div_le_of_le_mul ?_
    rw [Nat.mul_comm]
    exact Nat.mul_le_mul_right _ hle
  rw [← map_level_eq hbar, ← eighths_eq hle hword, List.map_map]
  refine List.map_congr_left fun k hk => ?_
  rw [h i hi k (List.mem_range.1 hk), hrate]
  rfl

/-- A column without a rate is empty. -/
theorem column_empty (h : Shows p color r greatest rates) (hi : i < r.width)
    (hnone : rates.length ≤ i) : column p r i = List.replicate r.height [level 0] := by
  rw [List.eq_replicate_iff]
  refine ⟨by rw [column, List.length_map, List.length_range], fun symbol hsymbol => ?_⟩
  obtain ⟨k, hk, rfl⟩ := List.mem_map.1 hsymbol
  rw [h i hi k (List.mem_range.1 hk), List.getElem?_eq_none hnone]
  rfl

/-- **Bars are to scale.**  Take a sparkline of some rates that it has columns for, and let
`greatest` be the greatest of them, at least one, and not so great that a product overflows.  Then

* the column of each rate is filled from the bottom by the whole part of
  `8 * height * rate / greatest` eighths of a cell, and the columns behind the last rate are blank;
* the column of a greater rate is not lower;
* a rate that is not zero and that no other one is greater than fills its column;
* if all rates are zero nothing is filled. -/
theorem bars_to_scale (style : SparklineStyle) (rates : List UInt64) (now : UInt64) (r : Region)
    {greatest : Nat} (hgreatest : (1 :: rates.map UInt64.toNat).max? = some greatest)
    (hfits : rates.length ≤ r.inner.width) (hword : 8 * r.inner.height * greatest < 2 ^ 64) :
    let height := r.inner.height
    let bar (rate : UInt64) := 8 * height * rate.toNat / greatest
    let column := column (draw style rates now r) r.inner
    ((∀ (i : Nat) (hi : i < rates.length),
        column i = (filledColumn height (bar rates[i])).map fun c => [c]) ∧
      ∀ i < r.inner.width, rates.length ≤ i → column i = List.replicate height [' ']) ∧
    (∀ rate ∈ rates, ∀ rate' ∈ rates, rate ≤ rate' → bar rate ≤ bar rate') ∧
    (∀ (i : Nat) (hi : i < rates.length), rates[i] ≠ 0 → (∀ rate ∈ rates, rate ≤ rates[i]) →
      column i = List.replicate height ['█']) ∧
    ((∀ rate ∈ rates, rate = 0) →
      ∀ i < r.inner.width, column i = List.replicate height [' ']) := by
  intro height bar column
  obtain rfl : (peak rates).toNat = greatest :=
    Option.some_inj.1 ((max?_rates rates).symm.trans hgreatest)
  have hshows := draw_shows style rates now r
  rw [List.take_of_length_le hfits] at hshows
  have hfilled : ∀ (i : Nat) (hi : i < rates.length),
      column i = (filledColumn height (bar rates[i])).map fun c => [c] := fun i hi =>
    column_filled hshows (by omega) (List.getElem?_eq_getElem hi)
      (toNat_le_peak (List.getElem_mem hi)) hword
  have hempty : ∀ i < r.inner.width, rates.length ≤ i → column i = List.replicate height [' '] :=
    fun i hi hnone => column_empty hshows hi hnone
  refine ⟨⟨hfilled, hempty⟩, fun rate _ rate' _ hle => ?_, fun i hi hpos hmost => ?_,
    fun hzero i hi => ?_⟩
  · exact Nat.div_le_div_right (Nat.mul_le_mul_left _ (UInt64.le_iff_toNat_le.1 hle))
  · have hbar : bar rates[i] = 8 * height := by
      change 8 * height * rates[i].toNat / (peak rates).toNat = 8 * height
      rw [toNat_eq_peak (List.getElem_mem hi) hpos hmost]
      exact Nat.mul_div_cancel _ (one_le_peak rates)
    rw [hfilled i hi, hbar, filledColumn_full, List.map_replicate]
    rfl
  · obtain hout | hin := Nat.lt_or_ge i rates.length
    · have hbar : bar rates[i] = 0 := by
        simp [bar, hzero _ (List.getElem_mem hout)]
      rw [hfilled i hout, hbar, filledColumn_zero, List.map_replicate]
      rfl
    · exact hempty i hi hin

/-- Two rows, and the rates zero, an eighth, a little more than a half and all of the greatest. -/
theorem bars_to_scale_sample :
    let rates : List UInt64 := [0, 3, 13, 24]
    let r : Region := ⟨2, 5, 9, 4⟩
    let column := column (draw download rates 24 r) r.inner
    ((1 :: rates.map UInt64.toNat).max? = some 24 ∧ rates.length ≤ r.inner.width ∧
      8 * r.inner.height * 24 < 2 ^ 64) ∧
    (column 0 = [[' '], [' ']] ∧ column 1 = [['▂'], [' ']] ∧ column 2 = [['█'], [' ']] ∧
      column 3 = [['█'], ['█']] ∧ column 4 = [[' '], [' ']]) ∧
    8 * r.inner.height * 3 / 24 ≤ 8 * r.inner.height * 13 / 24 := by
  intro rates r column
  have hgreatest : (1 :: rates.map UInt64.toNat).max? = some 24 := by decide
  have hfits : rates.length ≤ r.inner.width := by decide
  have hword : 8 * r.inner.height * 24 < 2 ^ 64 := by decide
  obtain ⟨⟨hfilled, hempty⟩, hmono, hmost, -⟩ :=
    bars_to_scale download rates 24 r hgreatest hfits hword
  have hlast : ∀ rate ∈ rates, rate ≤ 24 := by
    simp only [rates, List.forall_mem_cons]
    exact ⟨by decide, by decide, by decide, by decide, List.forall_mem_nil _⟩
  refine ⟨⟨hgreatest, hfits, hword⟩, ⟨?_, ?_, ?_, ?_, ?_⟩,
    hmono 3 (by decide) 13 (by decide) (by decide)⟩
  · exact (hfilled 0 (by decide)).trans (by decide)
  · exact (hfilled 1 (by decide)).trans (by decide)
  · exact (hfilled 2 (by decide)).trans (by decide)
  · exact hmost 3 (by decide) (by decide) hlast
  · exact hempty 4 (by decide) (by decide)

end Sparkline

end ShaperDash
