import Mathlib.Data.List.Basic
import Mathlib.Tactic.SplitIfs
import ShaperDash.Screen.Block

/-!
# Drawing stays in its rectangle

Everything on the screen is drawn into a rectangle.  A drawing is *local* if it leaves all cells
outside its rectangle alone and does not depend on where the rectangle lies: in a rectangle that was
moved it is the same picture, moved.  Both are closed under the ways in which pictures are put
together, whatever the texts are and however wide their clusters.

* `Region.Covers`, `Region.Inside` : the cells of a rectangle.
* `Picture.Within` : all strokes of a picture lie in a rectangle.
* `Local` : a drawing that is local, with a lemma for each way to put drawings together.
* `fill_local`, `paragraphLine_local`, `writeLine_local`, `Block.draw_local` : **what panes are made
  of is local**.
* `Local.cell_eq` : what a local drawing shows in a rectangle, it shows on a screen of its own.
-/

namespace ShaperDash

/-! ### Rectangles -/

namespace Region

variable (r : Region)

/-- The cell lies in the rectangle. -/
def Covers (x y : Nat) : Prop :=
  (r.x ≤ x ∧ x < r.x + r.width) ∧ r.y ≤ y ∧ y < r.y + r.height

instance {x y : Nat} : Decidable (r.Covers x y) :=
  inferInstanceAs (Decidable ((r.x ≤ x ∧ x < r.x + r.width) ∧ r.y ≤ y ∧ y < r.y + r.height))

/-- All cells of the rectangle lie in another one. -/
def Inside (r' : Region) : Prop := ∀ x y, r.Covers x y → r'.Covers x y

/-- The rectangle, moved to the right and down. -/
def shift (dx dy : Nat) : Region := { r with x := r.x + dx, y := r.y + dy }

variable {r} {r' r'' : Region}

theorem Inside.trans (h : r.Inside r') (h' : r'.Inside r'') : r.Inside r'' :=
  fun x y hc => h' x y (h x y hc)

theorem inner_inside : r.inner.Inside r := by
  intro x y h
  simp only [Covers, inner] at h ⊢
  omega

theorem row_inside {i : Nat} (hi : i < r.height) : (r.row i).Inside r := by
  intro x y h
  simp only [Covers, row] at h ⊢
  omega

theorem column_inside {i : Nat} (hi : i < r.width) : (r.column i).Inside r := by
  intro x y h
  simp only [Covers, column] at h ⊢
  omega

theorem upperHalf_inside : r.upperHalf.Inside r := by
  intro x y h
  simp only [Covers, upperHalf] at h ⊢
  omega

theorem lowerHalf_inside : r.lowerHalf.Inside r := by
  intro x y h
  simp only [Covers, lowerHalf] at h ⊢
  omega

theorem inner_shift (dx dy : Nat) : (r.shift dx dy).inner = r.inner.shift dx dy := by
  simp only [inner, shift, mk.injEq, and_true]
  omega

theorem row_shift (dx dy i : Nat) : (r.shift dx dy).row i = (r.row i).shift dx dy := by
  simp only [row, shift, mk.injEq, and_true, true_and]
  omega

theorem column_shift (dx dy i : Nat) : (r.shift dx dy).column i = (r.column i).shift dx dy := by
  simp only [column, shift, mk.injEq, and_true]
  omega

theorem upperHalf_shift (dx dy : Nat) : (r.shift dx dy).upperHalf = r.upperHalf.shift dx dy := rfl

theorem lowerHalf_shift (dx dy : Nat) : (r.shift dx dy).lowerHalf = r.lowerHalf.shift dx dy := by
  simp only [lowerHalf, shift, mk.injEq, and_true, true_and]
  omega

/-- Every rectangle is a screen of its size, moved to its place. -/
theorem ofSize_shift : (ofSize r.width r.height).shift r.x r.y = r := by
  simp [ofSize, shift]

end Region

/-! ### Pictures -/

namespace Picture

/-- All strokes of the picture lie in the rectangle. -/
def Within (r : Region) (p : Picture) : Prop := ∀ s ∈ p, r.Covers s.x s.y

/-- The picture, moved to the right and down. -/
def shift (p : Picture) (dx dy : Nat) : Picture :=
  p.map fun s => { s with x := s.x + dx, y := s.y + dy }

variable {r r' : Region} {p q : Picture}

theorem Within.nil : Within r [] := fun _ h => nomatch h

theorem Within.append (hp : Within r p) (hq : Within r q) : Within r (p ++ q) := by
  intro s hs
  obtain h | h := List.mem_append.1 hs
  · exact hp s h
  · exact hq s h

theorem Within.mono (h : Within r p) (hr : r.Inside r') : Within r' p :=
  fun s hs => hr s.x s.y (h s hs)

theorem Within.flatMap {α : Type} {xs : List α} {f : α → Picture} (h : ∀ a ∈ xs, Within r (f a)) :
    Within r (xs.flatMap f) := by
  intro s hs
  obtain ⟨a, ha, hs⟩ := List.mem_flatMap.1 hs
  exact h a ha s hs

theorem Within.map {α : Type} {xs : List α} {f : α → Stroke}
    (h : ∀ a ∈ xs, r.Covers (f a).x (f a).y) : Within r (xs.map f) := by
  intro s hs
  obtain ⟨a, ha, rfl⟩ := List.mem_map.1 hs
  exact h a ha

theorem shift_cons (s : Stroke) (dx dy : Nat) :
    Picture.shift (s :: p) dx dy = ⟨s.x + dx, s.y + dy, s.mark⟩ :: p.shift dx dy := rfl

theorem shift_append (dx dy : Nat) : (p ++ q).shift dx dy = p.shift dx dy ++ q.shift dx dy :=
  List.map_append

theorem shift_flatMap {α : Type} {xs : List α} {f : α → Picture} (dx dy : Nat) :
    Picture.shift (xs.flatMap f) dx dy = xs.flatMap fun a => (f a).shift dx dy :=
  List.map_flatMap

/-- Nothing is drawn on a cell that the picture keeps away from. -/
theorem Within.marks_eq_nil (h : Within r p) {x y : Nat} (hc : ¬ r.Covers x y) :
    p.marks x y = [] := by
  have hnone : ∀ s ∈ p, ¬ (s.x = x ∧ s.y = y) := by
    rintro s hs ⟨rfl, rfl⟩
    exact hc (h s hs)
  simpa [marks, List.filter_eq_nil_iff] using hnone

theorem marks_shift (dx dy x y : Nat) : (p.shift dx dy).marks (dx + x) (dy + y) = p.marks x y := by
  induction p with
  | nil => rfl
  | cons s p ih =>
    simp only [marks, shift, List.map_cons, List.filter_cons] at ih ⊢
    simp only [Nat.add_comm dx, Nat.add_comm dy, Nat.add_right_cancel_iff] at ih ⊢
    split_ifs with hs
    · simp [ih]
    · simp [ih]

end Picture

/-! ### Local drawings -/

open Picture

/-- A drawing that stays in its rectangle and does not depend on where that lies. -/
structure Local (f : Region → Picture) : Prop where
  within : ∀ r, Within r (f r)
  shift : ∀ r dx dy, f (r.shift dx dy) = (f r).shift dx dy

namespace Local

variable {f g : Region → Picture}

theorem append (hf : Local f) (hg : Local g) : Local fun r => f r ++ g r where
  within r := (hf.within r).append (hg.within r)
  shift r dx dy := by rw [hf.shift, hg.shift, shift_append]

theorem empty : Local fun _ => [] where
  within _ := .nil
  shift _ _ _ := rfl

/-- A drawing into a part of the rectangle. -/
theorem part (hf : Local f) {q : Region → Region} (hinside : ∀ r, (q r).Inside r)
    (hshift : ∀ r dx dy, q (r.shift dx dy) = (q r).shift dx dy) : Local fun r => f (q r) where
  within r := (hf.within (q r)).mono (hinside r)
  shift r dx dy := by rw [hshift, hf.shift]

/-- A drawing into what a border leaves. -/
theorem inside (hf : Local f) : Local fun r => f r.inner :=
  hf.part (fun _ => Region.inner_inside) fun _ _ _ => Region.inner_shift ..

/-- A drawing into a rectangle that has cells, and nothing in one that has none. -/
theorem of_nonempty (hwithin : ∀ r, 0 < r.width → 0 < r.height → Within r (f r))
    (hshift : ∀ r dx dy, f (r.shift dx dy) = (f r).shift dx dy) :
    Local fun r => if r.width = 0 ∨ r.height = 0 then [] else f r where
  within r := by
    split_ifs with h
    · exact .nil
    · exact hwithin r (by omega) (by omega)
  shift r dx dy := by
    change (if r.width = 0 ∨ r.height = 0 then [] else f (r.shift dx dy)) = _
    split_ifs
    · rfl
    · exact hshift r dx dy

/-- A drawing into the upper row of the rectangle, and nothing where there is none. -/
theorem line {f : Nat → Nat → Nat → Picture}
    (hwithin : ∀ r : Region, 0 < r.height → Within r (f r.x r.y r.width))
    (hshift : ∀ x y room dx dy, f (x + dx) (y + dy) room = (f x y room).shift dx dy) :
    Local fun r => if r.height = 0 then [] else f r.x r.y r.width where
  within r := by
    split_ifs with h
    · exact .nil
    · exact hwithin r (by omega)
  shift r dx dy := by
    change (if r.height = 0 then [] else f (r.x + dx) (r.y + dy) r.width) = _
    split_ifs
    · rfl
    · exact hshift r.x r.y r.width dx dy

/-- Drawings of several things, each into a part of the rectangle. -/
theorem parts {α : Type} {f : α → Region → Picture} (hf : ∀ a, Local (f a))
    {q : Region → List (Region × α)} (hinside : ∀ r, ∀ p ∈ q r, p.1.Inside r)
    (hshift : ∀ r dx dy, q (r.shift dx dy) = (q r).map fun p => (p.1.shift dx dy, p.2)) :
    Local fun r => (q r).flatMap fun p => f p.2 p.1 where
  within r := .flatMap fun p hp => ((hf p.2).within p.1).mono (hinside r p hp)
  shift r dx dy := by
    rw [hshift, List.flatMap_map, shift_flatMap]
    exact List.flatMap_congr fun p _ => (hf p.2).shift p.1 dx dy

/-- Drawings of the elements of a list, each into the part with its number. -/
theorem numbered {α : Type} {f : α → Region → Picture} (hf : ∀ a, Local (f a))
    {l : Region → List α} {q : Region → Nat → Region}
    (hinside : ∀ r, ∀ i < (l r).length, (q r i).Inside r)
    (hl : ∀ r dx dy, l (r.shift dx dy) = l r)
    (hq : ∀ r dx dy i, q (r.shift dx dy) i = (q r i).shift dx dy) :
    Local fun r => (l r).zipIdx.flatMap fun (a, i) => f a (q r i) := by
  have hlocal := parts hf (q := fun r => (l r).zipIdx.map fun (a, i) => (q r i, a)) ?_ ?_
  · simpa only [List.flatMap_map] using hlocal
  · intro r p hp
    obtain ⟨⟨a, i⟩, hmem, rfl⟩ := List.mem_map.1 hp
    exact hinside r i (by simpa using List.snd_lt_of_mem_zipIdx hmem)
  · intro r dx dy
    simp only [hl, List.map_map]
    exact List.map_congr_left fun ⟨a, i⟩ _ => by simp [hq]

/-- What a local drawing shows in a rectangle, it shows on a screen of its own. -/
theorem cell_eq (hf : Local f) (r : Region) (x y : Nat) :
    (f r).cell (r.x + x) (r.y + y) = (f (.ofSize r.width r.height)).cell x y := by
  have hplace : f r = (f (.ofSize r.width r.height)).shift r.x r.y := by
    rw [← hf.shift, Region.ofSize_shift]
  rw [hplace, cell, cell, marks_shift]

end Local

/-! ### What panes are made of -/

theorem fill_local (style : Style) : Local fun r => fill r style where
  within r := .flatMap fun j hj => .map fun i hi => by
    have hi := List.mem_range.1 hi
    have hj := List.mem_range.1 hj
    simp only [Region.Covers]
    omega
  shift r dx dy := by
    simp only [fill, Picture.shift, Region.shift, List.map_flatMap, List.map_map]
    refine List.flatMap_congr fun j _ => List.map_congr_left fun i _ => ?_
    simp only [Function.comp_apply, Stroke.mk.injEq, and_true]
    omega

/-- A cluster is drawn only if all of it has room, so that none is cut at the edge. -/
theorem paragraphClusters_within {r : Region} (hr : 0 < r.height) (used : Nat)
    (cs : List (List Char × Style)) :
    Within r (paragraphClusters r.x r.y r.width used cs) := by
  fun_induction paragraphClusters r.x r.y r.width used cs with
  | case1 => exact .nil
  | case2 used c style rest w hwide ih => exact ih
  | case3 => exact .nil
  | case4 used c style rest w hwide hroom hw ih => exact ih
  | case5 used c style rest w hwide hroom hw ih =>
    refine List.forall_mem_cons.2 ⟨?_, ih⟩
    simp only [Region.Covers]
    omega

theorem paragraphClusters_shift (x y room dx dy used : Nat) (cs : List (List Char × Style)) :
    paragraphClusters (x + dx) (y + dy) room used cs =
      Picture.shift (paragraphClusters x y room used cs) dx dy := by
  fun_induction paragraphClusters x y room used cs with
  | case1 => rfl
  | case2 used c style rest w hwide ih => rw [paragraphClusters, if_pos hwide, ih]
  | case3 used c style rest w hwide hroom =>
    rw [paragraphClusters, if_neg hwide, if_pos hroom]
    rfl
  | case4 used c style rest w hwide hroom hw ih =>
    rw [paragraphClusters, if_neg hwide, if_neg hroom, if_pos hw, ih]
  | case5 used c style rest w hwide hroom hw ih =>
    rw [paragraphClusters, if_neg hwide, if_neg hroom, if_neg hw, ih, Nat.add_right_comm]
    rfl

theorem paragraphLine_local (spans : List Span) : Local fun r => paragraphLine r spans :=
  .line (f := fun x y room => paragraphClusters x y room 0 (styledClusters spans))
    (fun _ hr => paragraphClusters_within hr 0 _)
    (fun x y room dx dy => paragraphClusters_shift x y room dx dy 0 _)

theorem hiddenCells_within {r : Region} (hr : 0 < r.height) {used w : Nat}
    (hw : used + w ≤ r.width) : Within r (hiddenCells (r.x + used) r.y w) :=
  .map fun i hi => by
    have hi := List.mem_range.1 hi
    simp only [Region.Covers]
    omega

/-- A mark without a width goes to the cell before it, which is in the room as well. -/
theorem writeClusters_within {r : Region} (hr : 0 < r.height) (hroom : 0 < r.width) (style : Style)
    (first : Bool) (used : Nat) (cs : List (List Char)) :
    Within r (writeClusters r.x r.y r.width style first used cs) := by
  fun_induction writeClusters r.x r.y r.width style first used cs with
  | case1 => exact .nil
  | case2 => exact .nil
  | case3 first used c rest w hfits stroke ih =>
    refine List.forall_mem_cons.2 ⟨?_, (hiddenCells_within hr (by omega)).append ih⟩
    simp only [stroke]
    split_ifs <;> simp only [Region.Covers] <;> omega

theorem hiddenCells_shift (x y w dx dy : Nat) :
    hiddenCells (x + dx) (y + dy) w = Picture.shift (hiddenCells x y w) dx dy := by
  simp only [hiddenCells, Picture.shift, List.map_map]
  refine List.map_congr_left fun i _ => ?_
  simp only [Function.comp_apply, Stroke.mk.injEq, and_true]
  omega

theorem writeClusters_shift (x y room dx dy : Nat) (style : Style) (first : Bool) (used : Nat)
    (cs : List (List Char)) :
    writeClusters (x + dx) (y + dy) room style first used cs =
      Picture.shift (writeClusters x y room style first used cs) dx dy := by
  fun_induction writeClusters x y room style first used cs with
  | case1 => rfl
  | case2 first used c rest w hfull =>
    rw [writeClusters, if_pos hfull]
    rfl
  | case3 first used c rest w hfits stroke ih =>
    rw [writeClusters, if_neg hfits, shift_cons, shift_append, ← ih, ← hiddenCells_shift,
      Nat.add_right_comm]
    refine List.cons_eq_cons.2 ⟨?_, rfl⟩
    simp only [stroke]
    split_ifs with _ hused
    · rfl
    · rfl
    · -- there is a cell before, which the subtraction needs
      simp only [Stroke.mk.injEq, and_true]
      omega
    · rfl

theorem writeSpans_within {r : Region} (hr : 0 < r.height) (spans : List Span) :
    Within r (writeSpans r.x r.y r.width spans) := by
  induction spans generalizing r with
  | nil => exact .nil
  | cons s rest ih =>
    unfold writeSpans
    split_ifs with hroom
    · exact .nil
    · refine (writeClusters_within hr (by omega) s.style true 0 s.clusters).append ?_
      refine (ih (r := ⟨r.x + s.columns, r.y, r.width - s.columns, r.height⟩) hr).mono ?_
      intro x y h
      simp only [Region.Covers] at h ⊢
      omega

theorem writeSpans_shift (y dx dy x room : Nat) (spans : List Span) :
    writeSpans (x + dx) (y + dy) room spans = Picture.shift (writeSpans x y room spans) dx dy := by
  induction spans generalizing x room with
  | nil => rfl
  | cons s rest ih =>
    unfold writeSpans
    by_cases hroom : room = 0
    · rw [if_pos hroom, if_pos hroom]
      rfl
    · rw [if_neg hroom, if_neg hroom, shift_append, ← ih, ← writeClusters_shift,
        Nat.add_right_comm]

theorem writeLine_local (spans : List Span) : Local fun r => writeLine r spans :=
  .line (f := fun x y room => writeSpans x y room spans)
    (fun _ hr => writeSpans_within hr spans)
    (fun x y room dx dy => writeSpans_shift y dx dy x room spans)

namespace Block

theorem titleRegion_inside {r : Region} (hr : 0 < r.height) : (titleRegion r).Inside r := by
  intro x y h
  simp only [Region.Covers, titleRegion] at h ⊢
  omega

theorem titleRegion_shift (r : Region) (dx dy : Nat) :
    titleRegion (r.shift dx dy) = (titleRegion r).shift dx dy := by
  simp only [titleRegion, Region.shift, Region.mk.injEq, and_true]
  omega

theorem border_within (style : BlockStyle) {r : Region} (hw : 0 < r.width) (hh : 0 < r.height) :
    Within r (border style r) := by
  have hupright : ∀ x, r.x ≤ x → x < r.x + r.width → Within r (upright style r x) :=
    fun x hx hx' => .map fun j hj => ⟨⟨hx, hx'⟩, by
      have hj := List.mem_range.1 hj
      simp only [piece]
      omega⟩
  have hlevel : ∀ y, r.y ≤ y → y < r.y + r.height → Within r (level style r y) :=
    fun y hy hy' => .map fun i hi => ⟨by
      have hi := List.mem_range.1 hi
      simp only [piece]
      omega, hy, hy'⟩
  refine .append (.append (.append (.append ?_ ?_) ?_) ?_) ?_
  · exact hupright r.x (by omega) (by omega)
  · exact hlevel r.y (by omega) (by omega)
  · exact hupright _ (by omega) (by omega)
  · exact hlevel _ (by omega) (by omega)
  · intro s hs
    simp only [List.mem_cons, List.not_mem_nil, or_false] at hs
    rcases hs with rfl | rfl | rfl | rfl <;> simp only [Region.Covers, piece] <;> omega

theorem upright_shift (style : BlockStyle) (r : Region) (x dx dy : Nat) :
    upright style (r.shift dx dy) (x + dx) = (upright style r x).shift dx dy := by
  simp [upright, Picture.shift, Region.shift, piece, Nat.add_right_comm]

theorem level_shift (style : BlockStyle) (r : Region) (y dx dy : Nat) :
    level style (r.shift dx dy) (y + dy) = (level style r y).shift dx dy := by
  simp [level, Picture.shift, Region.shift, piece, Nat.add_right_comm]

theorem border_shift (style : BlockStyle) (r : Region) (dx dy : Nat) :
    border style (r.shift dx dy) = (border style r).shift dx dy := by
  have hright : (r.shift dx dy).x + ((r.shift dx dy).width - 1) = r.x + (r.width - 1) + dx :=
    Nat.add_right_comm ..
  have hbottom : (r.shift dx dy).y + ((r.shift dx dy).height - 1) = r.y + (r.height - 1) + dy :=
    Nat.add_right_comm ..
  simp only [border, hright, hbottom, shift_append]
  rw [← upright_shift, ← upright_shift, ← level_shift, ← level_shift]
  rfl

theorem draw_local (style : BlockStyle) (title : List Span) : Local fun r => draw style title r :=
  .of_nonempty
    (fun r hw hh => .append (.append ((fill_local _).within r) (border_within style hw hh))
      (((writeLine_local title).within (titleRegion r)).mono (titleRegion_inside hh)))
    (fun r dx dy => by
      rw [shift_append, shift_append, ← (fill_local _).shift, border_shift, titleRegion_shift,
        (writeLine_local title).shift])

end Block

end ShaperDash
