import Mathlib.Data.List.Basic
import Mathlib.Tactic.SplitIfs
import ShaperDash.Proofs.Screen.Local
import ShaperDash.Proofs.Text.Simple

/-!
# Pictures without the colors of their text

Two pictures differ at most in the colors that they give the text in some rectangles, if they are
the same once these colors are left out.  Leaving them out goes through all ways in which pictures
are put together, so that the question comes down to the texts and fills that the colors belong to.

* `Picture.colorless` : a picture without the colors of the text in some rectangles.
* `Picture.cell_of_colorless_eq` : **pictures that are the same without these colors show cells that
  differ in nothing else, and the same cells outside of the rectangles**.
* `colorless_fill`, `colorless_paragraphLine` : fills, and lines of text with a part in the middle
  that changes its colors.
-/

namespace ShaperDash

/-! ### What is left without a color -/

/-- The look without the color of the text. -/
def Style.colorless (s : Style) : Style := { s with fg := .none }

/-- The mark without the color of the text. -/
def Mark.colorless : Mark → Mark
  | .style s => .style s.colorless
  | .put symbol s => .put symbol s.colorless
  | .extend symbol s => .extend symbol s.colorless
  | .clear => .clear

/-- The stroke without the color of the text. -/
def Stroke.colorless (s : Stroke) : Stroke := { s with mark := s.mark.colorless }

/-- The cell without the color of its text. -/
def Cell.colorless (c : Cell) : Cell := { c with fg := .reset }

/-- The text without its color. -/
def Span.colorless (s : Span) : Span := { s with style := s.style.colorless }

/-- The picture without the colors of the text in some rectangles. -/
def Picture.colorless (p : Picture) (rs : List Region) : Picture :=
  p.map fun s => if ∃ r ∈ rs, r.Covers s.x s.y then s.colorless else s

/-! ### Cells -/

theorem Cell.colorless_apply (c : Cell) (m : Mark) :
    (c.apply m).colorless = c.colorless.apply m.colorless := by
  cases m <;> rfl

theorem Cell.colorless_foldl (c : Cell) (ms : List Mark) :
    (ms.foldl Cell.apply c).colorless = (ms.map Mark.colorless).foldl Cell.apply c.colorless := by
  induction ms generalizing c with
  | nil => rfl
  | cons m ms ih => rw [List.foldl_cons, ih, Cell.colorless_apply, List.map_cons, List.foldl_cons]

namespace Picture

variable {p q : Picture} {rs : List Region} {r : Region}

theorem marks_colorless (x y : Nat) :
    (p.colorless rs).marks x y = (p.marks x y).map fun m =>
      if ∃ r ∈ rs, r.Covers x y then m.colorless else m := by
  induction p with
  | nil => rfl
  | cons s p ih =>
    have hplace : ∀ t : Stroke, (t = s.colorless ∨ t = s) → t.x = s.x ∧ t.y = s.y := by
      rintro t (rfl | rfl) <;> exact ⟨rfl, rfl⟩
    obtain ⟨hx, hy⟩ := hplace (if ∃ r ∈ rs, r.Covers s.x s.y then s.colorless else s)
      (by split_ifs <;> simp)
    simp only [marks, colorless, List.map_cons, List.filter_cons, hx, hy] at ih ⊢
    by_cases hs : s.x = x ∧ s.y = y
    · obtain ⟨rfl, rfl⟩ := hs
      simp only [decide_true, Bool.and_self, if_true, List.map_cons, ih, List.cons.injEq, and_true]
      split_ifs <;> rfl
    · have hother : ¬ (decide (s.x = x) && decide (s.y = y)) = true := by simpa using hs
      rw [if_neg hother, if_neg hother, ih]

/-- **Pictures that are the same without the colors of the text in some rectangles** show cells that
are the same but for these colors, and the same cells outside of the rectangles. -/
theorem cell_of_colorless_eq (h : p.colorless rs = q.colorless rs) (x y : Nat) :
    (p.cell x y).colorless = (q.cell x y).colorless ∧
      ((∀ r ∈ rs, ¬ r.Covers x y) → p.cell x y = q.cell x y) := by
  have hmarks : (p.colorless rs).marks x y = (q.colorless rs).marks x y := by rw [h]
  rw [marks_colorless, marks_colorless] at hmarks
  by_cases hc : ∃ r ∈ rs, r.Covers x y
  · simp only [if_pos hc] at hmarks
    refine ⟨?_, fun hout => ?_⟩
    · rw [cell, cell, Cell.colorless_foldl, Cell.colorless_foldl, hmarks]
    · obtain ⟨r, hr, hcovers⟩ := hc
      exact absurd hcovers (hout r hr)
  · simp only [if_neg hc, List.map_id'] at hmarks
    have hcell : p.cell x y = q.cell x y := by rw [cell, cell, hmarks]
    exact ⟨congrArg Cell.colorless hcell, fun _ => hcell⟩

/-! ### Composed pictures -/

theorem colorless_append : (p ++ q).colorless rs = p.colorless rs ++ q.colorless rs :=
  List.map_append

theorem colorless_flatMap {α : Type} {xs : List α} {f : α → Picture} :
    Picture.colorless (xs.flatMap f) rs = xs.flatMap fun a => (f a).colorless rs :=
  List.map_flatMap

theorem colorless_flatMap_congr {α : Type} {xs : List α} {f g : α → Picture}
    (h : ∀ a ∈ xs, (f a).colorless rs = (g a).colorless rs) :
    Picture.colorless (xs.flatMap f) rs = Picture.colorless (xs.flatMap g) rs := by
  rw [colorless_flatMap, colorless_flatMap]
  exact List.flatMap_congr h

/-- Pictures of two lists, element by element. -/
theorem colorless_numbered {α : Type} {l l' : List α} {f : α → Nat → Picture}
    (hlength : l.length = l'.length)
    (h : ∀ i (hi : i < l.length) (hi' : i < l'.length),
      (f l[i] i).colorless rs = (f l'[i] i).colorless rs) :
    Picture.colorless (l.zipIdx.flatMap fun p => f p.1 p.2) rs =
      Picture.colorless (l'.zipIdx.flatMap fun p => f p.1 p.2) rs := by
  rw [colorless_flatMap, colorless_flatMap, List.flatMap_def, List.flatMap_def]
  congr 1
  refine List.ext_getElem (by simpa using hlength) fun i hi hi' => ?_
  simp only [List.length_map, List.length_zipIdx] at hi hi'
  simpa using h i hi hi'

theorem colorless_of_within (h : Within r p) (hr : r ∈ rs) :
    p.colorless rs = p.map Stroke.colorless :=
  List.map_congr_left fun s hs => if_pos ⟨r, hr, h s hs⟩

/-! ### Fills -/

theorem map_colorless_fill (r : Region) (s : Style) :
    (fill r s).map Stroke.colorless = fill r s.colorless := by
  simp only [fill, List.map_flatMap, List.map_map]
  rfl

theorem colorless_fill (hr : r ∈ rs) {s t : Style} (h : s.colorless = t.colorless) :
    Picture.colorless (fill r s) rs = Picture.colorless (fill r t) rs := by
  rw [colorless_of_within ((fill_local s).within r) hr,
    colorless_of_within ((fill_local t).within r) hr, map_colorless_fill, map_colorless_fill, h]

end Picture

/-! ### Lines of text -/

theorem styledClusters_append (as bs : List Span) :
    styledClusters (as ++ bs) = styledClusters as ++ styledClusters bs :=
  List.flatMap_append

theorem styledClusters_colorless (spans : List Span) :
    styledClusters (spans.map Span.colorless) =
      (styledClusters spans).map fun p => (p.1, p.2.colorless) := by
  simp only [styledClusters, List.flatMap_map, List.map_flatMap, List.map_map]
  rfl

variable {x y room used : Nat} {cs rest : List (List Char × Style)}

theorem paragraphClusters_no_room : paragraphClusters x y 0 used cs = [] := by
  fun_induction paragraphClusters x y 0 used cs with
  | case1 => rfl
  | case2 used c style rest w hwide ih => exact ih
  | case3 => rfl
  | case4 used c style rest w hwide hfits hw ih => exact ih
  | case5 used c style rest w hwide hfits hw ih => omega

theorem map_colorless_paragraphClusters :
    (paragraphClusters x y room used cs).map Stroke.colorless =
      paragraphClusters x y room used (cs.map fun p => (p.1, p.2.colorless)) := by
  fun_induction paragraphClusters x y room used cs with
  | case1 => rfl
  | case2 used c style rest w hwide ih => rw [ih, List.map_cons, paragraphClusters, if_pos hwide]
  | case3 used c style rest w hwide hfull =>
    rw [List.map_cons, paragraphClusters, if_neg hwide, if_pos hfull]
    rfl
  | case4 used c style rest w hwide hfits hw ih =>
    rw [ih, List.map_cons, paragraphClusters, if_neg hwide, if_neg hfits, if_pos hw]
  | case5 used c style rest w hwide hfits hw ih =>
    rw [List.map_cons, ih, List.map_cons, paragraphClusters, if_neg hwide, if_neg hfits, if_neg hw]
    rfl

/-- Clusters of one column each are drawn one behind the other, as many as there is room for. -/
theorem paragraphClusters_columns (h : ∀ p ∈ cs, textColumns p.1 = 1) :
    ∀ s ∈ paragraphClusters x y room used cs,
      (x + used ≤ s.x ∧ s.x < x + min room (used + cs.length)) ∧ s.y = y := by
  induction cs generalizing used with
  | nil => exact fun _ hs => absurd hs List.not_mem_nil
  | cons p cs ih =>
    obtain ⟨hp, hcs⟩ := List.forall_mem_cons.1 h
    simp only [paragraphClusters, hp, List.length_cons, Nat.one_ne_zero, if_false]
    split_ifs with hwide hfull
    · intro s hs
      have := ih hcs s hs
      omega
    · exact fun _ hs => absurd hs List.not_mem_nil
    · refine List.forall_mem_cons.2 ⟨by dsimp only; omega, fun s hs => ?_⟩
      have := ih hcs s hs
      omega

/-- The columns that clusters take in a room; those wider than the whole room are left out. -/
def drawnColumns (room : Nat) : List (List Char × Style) → Nat
  | [] => 0
  | (c, _) :: rest =>
    if room < textColumns c then drawnColumns room rest else textColumns c + drawnColumns room rest

theorem drawnColumns_of_le (h : ∀ p ∈ cs, textColumns p.1 ≤ room) :
    drawnColumns room cs = cs.foldr (fun p n => textColumns p.1 + n) 0 := by
  induction cs with
  | nil => rfl
  | cons p cs ih =>
    obtain ⟨hp, hcs⟩ := List.forall_mem_cons.1 h
    rw [drawnColumns, if_neg (Nat.not_lt.2 hp), ih hcs, List.foldr_cons]

theorem drawnColumns_of_columns (h : ∀ p ∈ cs, textColumns p.1 = 1) (hroom : 0 < room) :
    drawnColumns room cs = cs.length := by
  induction cs with
  | nil => rfl
  | cons p cs ih =>
    obtain ⟨hp, hcs⟩ := List.forall_mem_cons.1 h
    rw [drawnColumns, hp, if_neg (by omega), ih hcs, List.length_cons, Nat.add_comm]

/-- What stands behind other clusters begins where they end, if that is in the room. -/
theorem paragraphClusters_append (hused : used ≤ room) :
    paragraphClusters x y room used (cs ++ rest) =
      paragraphClusters x y room used cs ++
        if used + drawnColumns room cs ≤ room then
          paragraphClusters x y room (used + drawnColumns room cs) rest
        else [] := by
  induction cs generalizing used with
  | nil => simp [paragraphClusters, drawnColumns, hused]
  | cons p cs ih =>
    obtain ⟨c, style⟩ := p
    by_cases hwide : room < textColumns c
    · have hcolumns : drawnColumns room ((c, style) :: cs) = drawnColumns room cs := if_pos hwide
      simp only [List.cons_append, paragraphClusters, if_pos hwide, hcolumns, ih hused]
    have hcolumns : drawnColumns room ((c, style) :: cs) =
        textColumns c + drawnColumns room cs := if_neg hwide
    rw [hcolumns, ← Nat.add_assoc]
    simp only [List.cons_append, paragraphClusters, if_neg hwide]
    by_cases hfull : room < used + textColumns c
    · -- the line ends here, and what is behind would begin beyond the room
      rw [if_pos hfull, if_pos hfull, if_neg (by omega), List.append_nil]
    rw [if_neg hfull, if_neg hfull]
    by_cases hzero : textColumns c = 0
    · rw [if_pos hzero, if_pos hzero, hzero, Nat.add_zero, ih hused]
    · rw [if_neg hzero, if_neg hzero, ih (by omega), List.cons_append]

/-- **A line whose middle part changes its colors** is the same without the colors of the cells that
this part takes. -/
theorem colorless_paragraphLine {r q : Region} {rs : List Region}
    {before mid mid' after : List Span}
    (hbefore : ∀ s ∈ before, SimpleText s.text) (hmid : ∀ s ∈ mid, SimpleText s.text)
    (hmid' : ∀ s ∈ mid', SimpleText s.text)
    (hsame : mid.map Span.colorless = mid'.map Span.colorless) (hq : q ∈ rs)
    (hplace : q = ⟨r.x + (styledClusters before).length, r.y,
      min (styledClusters mid).length (r.width - (styledClusters before).length), 1⟩) :
    Picture.colorless (paragraphLine r (before ++ mid ++ after)) rs =
      Picture.colorless (paragraphLine r (before ++ mid' ++ after)) rs := by
  have hclusters : (styledClusters mid).map (fun p => (p.1, p.2.colorless)) =
      (styledClusters mid').map fun p => (p.1, p.2.colorless) := by
    rw [← styledClusters_colorless, hsame, styledClusters_colorless]
  have hlength : (styledClusters mid').length = (styledClusters mid).length := by
    simpa using (congrArg List.length hclusters).symm
  have hwithin : ∀ {cs : List (List Char × Style)}, (∀ p ∈ cs, textColumns p.1 = 1) →
      cs.length = (styledClusters mid).length →
      Picture.Within q (paragraphClusters r.x r.y r.width (styledClusters before).length cs) := by
    intro cs hcs hcount s hs
    have := paragraphClusters_columns hcs s hs
    simp only [hplace, Region.Covers]
    omega
  unfold paragraphLine
  split_ifs
  · rfl
  · simp only [List.append_assoc, styledClusters_append]
    obtain hroom | hroom := Nat.eq_zero_or_pos r.width
    · rw [hroom, paragraphClusters_no_room, paragraphClusters_no_room]
    · rw [paragraphClusters_append (Nat.zero_le _), paragraphClusters_append (Nat.zero_le _),
        drawnColumns_of_columns (textColumns_of_simple hbefore) hroom]
      simp only [Picture.colorless_append, Nat.zero_add]
      congr 1
      split_ifs with hfits
      · rw [paragraphClusters_append hfits, paragraphClusters_append hfits,
          drawnColumns_of_columns (textColumns_of_simple hmid) hroom,
          drawnColumns_of_columns (textColumns_of_simple hmid') hroom, hlength,
          Picture.colorless_append, Picture.colorless_append,
          Picture.colorless_of_within (hwithin (textColumns_of_simple hmid) rfl) hq,
          Picture.colorless_of_within (hwithin (textColumns_of_simple hmid') hlength) hq,
          map_colorless_paragraphClusters, map_colorless_paragraphClusters, hclusters]
      · rfl

end ShaperDash
