import Mathlib.Data.List.Nodup
import ShaperDash.Proofs.Screen.Local
import ShaperDash.Proofs.Text.Simple

/-!
# What a cell shows

A picture is put together from many parts, and only few of them reach a given cell.  The cell shows
what these draw on it, one after the other.

* `Picture.marks_flatMap_of_unique`, `Picture.marks_numbered` : of many parts only one reaches the
  cell.
* `marks_fill`, `Block.marks_middle`, `Block.marks_inner` : fills, and blocks beside and inside
  their edges.
* `Local.cell_upperHalf`, `Local.cell_lowerHalf` : the halves of a rectangle.
* `marks_paragraphClusters` : **a line of text whose clusters take one column each puts each of them
  into a cell of its own.**
-/

namespace ShaperDash

namespace Picture

/-! ### Parts that do not reach a cell -/

section

variable {α : Type} {xs : List α} {f : α → Picture} {p : Picture} {x y i : Nat}

theorem marks_flatMap (xs : List α) (f : α → Picture) (x y : Nat) :
    marks (xs.flatMap f) x y = xs.flatMap fun a => (f a).marks x y := by
  simp only [marks, List.filter_flatMap, List.map_flatMap]

theorem marks_eq_nil (h : ∀ s ∈ p, s.x = x → s.y ≠ y) : p.marks x y = [] := by
  simpa [marks, List.filter_eq_nil_iff] using h

theorem marks_cons (s : Stroke) (p : Picture) (x y : Nat) :
    marks (s :: p) x y = if s.x = x ∧ s.y = y then s.mark :: p.marks x y else p.marks x y := by
  simp only [marks, List.filter_cons, Bool.and_eq_true, decide_eq_true_eq]
  split_ifs <;> rfl

theorem marks_singleton (s : Stroke) (x y : Nat) :
    marks [s] x y = if s.x = x ∧ s.y = y then [s.mark] else [] :=
  marks_cons s [] x y

theorem marks_flatMap_eq_nil (h : ∀ a ∈ xs, (f a).marks x y = []) :
    marks (xs.flatMap f) x y = [] := by
  rw [marks_flatMap, List.flatMap_eq_nil_iff]
  exact h

/-- Of different parts, only one reaches the cell. -/
theorem marks_flatMap_of_unique {a : α} (hnodup : xs.Nodup) (ha : a ∈ xs)
    (hother : ∀ b ∈ xs, b ≠ a → (f b).marks x y = []) :
    marks (xs.flatMap f) x y = (f a).marks x y := by
  obtain ⟨before, after, rfl⟩ := List.append_of_mem ha
  obtain ⟨-, hafter, hapart⟩ := List.nodup_append.1 hnodup
  have hbefore : marks (before.flatMap f) x y = [] :=
    marks_flatMap_eq_nil fun b hb =>
      hother b (List.mem_append_left _ hb) (hapart b hb a List.mem_cons_self)
  have hrest : marks (after.flatMap f) x y = [] :=
    marks_flatMap_eq_nil fun b hb => by
      refine hother b (List.mem_append_right _ (List.mem_cons_of_mem a hb)) ?_
      rintro rfl
      exact (List.nodup_cons.1 hafter).1 hb
  rw [List.flatMap_append, List.flatMap_cons, marks_append, marks_append, hbefore, hrest,
    List.nil_append, List.append_nil]

/-- Of parts with numbers, only the one with the number `i` reaches the cell, if there is one. -/
theorem marks_numbered {l : List α} {f : α → Nat → Picture}
    (hother : ∀ a j, j ≠ i → (f a j).marks x y = []) :
    marks (l.zipIdx.flatMap fun p => f p.1 p.2) x y =
      (l[i]?.map fun a => (f a i).marks x y).getD [] := by
  have hnodup : l.zipIdx.Nodup := by
    refine List.Nodup.of_map Prod.snd ?_
    rw [List.zipIdx_map_snd]
    exact List.nodup_range'
  by_cases hi : i < l.length
  · have hmem : (l[i], i) ∈ l.zipIdx := by
      rw [List.mk_mem_zipIdx_iff_getElem?]
      exact List.getElem?_eq_getElem hi
    rw [marks_flatMap_of_unique hnodup hmem, List.getElem?_eq_getElem hi]
    · rfl
    · rintro ⟨a, j⟩ hj hne
      refine hother a j ?_
      rintro rfl
      -- the number tells the part
      rw [List.mk_mem_zipIdx_iff_getElem?, List.getElem?_eq_getElem hi, Option.some_inj] at hj
      exact hne (by rw [hj])
  · rw [List.getElem?_eq_none (Nat.le_of_not_lt hi)]
    refine marks_flatMap_eq_nil fun ⟨a, j⟩ hj => hother a j ?_
    have hlt := List.snd_lt_of_mem_zipIdx hj
    omega

/-- Of one stroke for each number below `n`, only that with the number `i` reaches the cell. -/
theorem marks_range {n : Nat} {g : Nat → Stroke} (hi : i < n)
    (hplace : ∀ j < n, (g j).x = x ∧ (g j).y = y ↔ j = i) :
    marks ((List.range n).map g) x y = [(g i).mark] := by
  rw [List.map_eq_flatMap, marks_flatMap_of_unique List.nodup_range (List.mem_range.2 hi)]
  · rw [marks_singleton, if_pos ((hplace i hi).2 rfl)]
  · intro j hj hne
    rw [marks_singleton, if_neg fun h => hne ((hplace j (List.mem_range.1 hj)).1 h)]

end

end Picture

/-! ### Fills and blocks -/

open Picture

variable {r : Region} {x y : Nat}

theorem marks_fill (style : Style) (h : r.Covers x y) :
    (fill r style).marks x y = [.style style] := by
  obtain ⟨⟨hx, hx'⟩, hy, hy'⟩ := h
  rw [fill, marks_flatMap_of_unique List.nodup_range
    (List.mem_range.2 (show y - r.y < r.height by omega))]
  · refine marks_range (i := x - r.x) (by omega) fun i _ => ?_
    dsimp only
    omega
  · intro j _ hj
    refine marks_eq_nil fun s hs _ => ?_
    obtain ⟨i, -, rfl⟩ := List.mem_map.1 hs
    dsimp only
    omega

namespace Block

variable {style : BlockStyle} {title : List Span}

/-- What a block draws on the cells of a column between its upper and its lower edge. -/
def beside (style : BlockStyle) (r : Region) (x : Nat) : List Mark :=
  (if r.x ≤ x ∧ x < r.x + r.width then [.style (.ofBg style.background)] else []) ++
    (if r.x = x then [.put ['│'] (.ofFg style.border)] else []) ++
    if r.x + (r.width - 1) = x then [.put ['│'] (.ofFg style.border)] else []

theorem marks_upright (hy : r.y ≤ y) (hy' : y < r.y + r.height) (x' : Nat) :
    (upright style r x').marks x y = if x' = x then [.put ['│'] (.ofFg style.border)] else [] := by
  split_ifs with hx
  · refine marks_range (i := y - r.y) (by omega) fun j _ => ?_
    simp only [piece]
    omega
  · refine marks_eq_nil fun s hs h => ?_
    obtain ⟨j, -, rfl⟩ := List.mem_map.1 hs
    exact absurd h hx

theorem marks_level {y' : Nat} (hy : y' ≠ y) : (level style r y').marks x y = [] := by
  refine marks_eq_nil fun s hs _ => ?_
  obtain ⟨i, -, rfl⟩ := List.mem_map.1 hs
  exact hy

/-- Between its upper and its lower edge a block is the same in every row. -/
theorem marks_middle (hw : 0 < r.width) (hy : r.y < y) (hy' : y + 1 < r.y + r.height) :
    (draw style title r).marks x y = beside style r x := by
  have hfill : (fill r (.ofBg style.background)).marks x y =
      if r.x ≤ x ∧ x < r.x + r.width then [.style (.ofBg style.background)] else [] := by
    split_ifs with hx
    · exact marks_fill _ ⟨hx, by omega⟩
    · exact ((fill_local _).within r).marks_eq_nil fun h => hx h.1
  have hcorners : ∀ {s s' t t' : Stroke}, s.y ≠ y → s'.y ≠ y → t.y ≠ y → t'.y ≠ y →
      marks [s, s', t, t'] x y = [] := by
    intro s s' t t' hs hs' ht ht'
    exact marks_eq_nil (by simp [hs, hs', ht, ht'])
  have htitle : (writeLine (titleRegion r) title).marks x y = [] := by
    refine ((writeLine_local title).within _).marks_eq_nil fun h => ?_
    simp only [Region.Covers, titleRegion] at h
    omega
  rw [draw, if_neg (by omega), border]
  simp only [marks_append]
  rw [hfill, htitle, marks_upright (by omega) (by omega), marks_upright (by omega) (by omega),
    marks_level (by omega), marks_level (by omega),
    hcorners (by simp only [piece]; omega) (by simp only [piece]; omega)
      (by simp only [piece]; omega) (by simp only [piece]; omega)]
  simp only [beside, List.append_nil, List.append_assoc]

/-- Inside its edges a block is nothing but its background. -/
theorem marks_inner (h : r.inner.Covers x y) :
    (draw style title r).marks x y = [.style (.ofBg style.background)] := by
  simp only [Region.Covers, Region.inner] at h
  rw [marks_middle (by omega) (by omega) (by omega), beside, if_pos (by omega), if_neg (by omega),
    if_neg (by omega)]
  rfl

end Block

/-! ### Halves -/

/-- In the upper half of a rectangle only what is drawn there shows. -/
theorem Local.cell_upperHalf {f g : Region → Picture} (hg : Local g)
    (h : r.upperHalf.Covers x y) :
    cell (f r.upperHalf ++ g r.lowerHalf) x y = (f r.upperHalf).cell x y := by
  have hother : (g r.lowerHalf).marks x y = [] := by
    refine (hg.within _).marks_eq_nil fun h' => ?_
    simp only [Region.Covers, Region.upperHalf, Region.lowerHalf] at h h'
    omega
  rw [cell, marks_append, hother, List.append_nil, cell]

/-- So it is in the lower half. -/
theorem Local.cell_lowerHalf {f g : Region → Picture} (hf : Local f)
    (h : r.lowerHalf.Covers x y) :
    cell (f r.upperHalf ++ g r.lowerHalf) x y = (g r.lowerHalf).cell x y := by
  have hother : (f r.upperHalf).marks x y = [] := by
    refine (hf.within _).marks_eq_nil fun h' => ?_
    simp only [Region.Covers, Region.upperHalf, Region.lowerHalf] at h h'
    omega
  rw [cell, marks_append, hother, List.nil_append, cell]

/-! ### Lines of text -/

/-- A line is drawn from the left to the right. -/
theorem le_of_mem_paragraphClusters {room used : Nat} {cs : List (List Char × Style)} :
    ∀ s ∈ paragraphClusters x y room used cs, x + used ≤ s.x := by
  fun_induction paragraphClusters x y room used cs with
  | case1 => exact fun _ hs => absurd hs List.not_mem_nil
  | case2 used c style rest w hwide ih => exact ih
  | case3 => exact fun _ hs => absurd hs List.not_mem_nil
  | case4 used c style rest w hwide hroom hw ih => exact ih
  | case5 used c style rest w hwide hroom hw ih =>
    refine List.forall_mem_cons.2 ⟨Nat.le_refl _, fun s hs => ?_⟩
    have hle := ih s hs
    omega

/-- Clusters of one column each are put into cells of their own as far as there is room, whatever
comes behind them. -/
theorem marks_paragraphClusters {room used k : Nat} {cs rest : List (List Char × Style)}
    (h : ∀ p ∈ cs, textColumns p.1 = 1) (hroom : used + k < room) (hk : k < cs.length) :
    (paragraphClusters x y room used (cs ++ rest)).marks (x + used + k) y =
      [.put cs[k].1 cs[k].2] := by
  induction cs generalizing used k with
  | nil => exact absurd hk (Nat.not_lt_zero k)
  | cons p cs ih =>
    obtain ⟨hp, hcs⟩ := List.forall_mem_cons.1 h
    rw [List.length_cons] at hk
    simp only [List.cons_append, paragraphClusters, hp]
    rw [if_neg (by omega), if_neg (by omega), if_neg Nat.one_ne_zero, marks_cons]
    cases k with
    | zero =>
      have hbehind : (paragraphClusters x y room (used + 1) (cs ++ rest)).marks (x + used) y = [] :=
        marks_eq_nil fun s hs hx => by
          have hle := le_of_mem_paragraphClusters s hs
          omega
      rw [Nat.add_zero, hbehind, if_pos ⟨rfl, rfl⟩]
      rfl
    | succ k =>
      have hplace : x + used + (k + 1) = x + (used + 1) + k := by omega
      rw [if_neg (by dsimp only; omega), hplace, ih hcs (by omega) (by omega)]
      rfl

/-- A line of simple texts puts each of its characters into a cell of its own, whatever comes behind
them. -/
theorem marks_paragraphLine {spans : List Span} {k : Nat} (h : ∀ s ∈ spans, SimpleText s.text)
    (hrow : 0 < r.height) (hroom : (characters spans).length ≤ r.width)
    (hk : k < (characters spans).length) (after : List Span) :
    ∃ style, (paragraphLine r (spans ++ after)).marks (r.x + k) r.y =
      [.put [(characters spans)[k]] style] := by
  have hlength := length_styledClusters h
  have hk' : k < (styledClusters spans).length := by omega
  have hsymbol : (styledClusters spans)[k].1 = [(characters spans)[k]] := by
    simpa [hk, hk'] using congrArg (fun l => l[k]?) (symbols_of_simple h)
  have hmarks : (paragraphClusters r.x r.y r.width 0
      (styledClusters spans ++ styledClusters after)).marks (r.x + 0 + k) r.y =
        [.put (styledClusters spans)[k].1 (styledClusters spans)[k].2] :=
    marks_paragraphClusters (textColumns_of_simple h) (by omega) hk'
  rw [Nat.add_zero, hsymbol] at hmarks
  refine ⟨(styledClusters spans)[k].2, ?_⟩
  rw [paragraphLine, if_neg (by omega), styledClusters, List.flatMap_append]
  exact hmarks

namespace Picture

/-- From column `x` on, row `y` shows these characters, one in each cell. -/
def Reads (p : Picture) (x y : Nat) (cs : List Char) : Prop :=
  ∀ (k : Nat) (hk : k < cs.length), (p.cell (x + k) y).symbol = [cs[k]]

/-- What stands behind other characters is read from where these end. -/
theorem Reads.behind {p : Picture} {x y : Nat} {as bs : List Char} (h : p.Reads x y (as ++ bs)) :
    p.Reads (x + as.length) y bs := by
  intro k hk
  have hcell := h (as.length + k) (by rw [List.length_append]; omega)
  rw [← Nat.add_assoc] at hcell
  rw [hcell]
  simp

end Picture

end ShaperDash
