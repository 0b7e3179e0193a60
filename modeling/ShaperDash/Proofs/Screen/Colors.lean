import ShaperDash.Proofs.Screen.Cells
import ShaperDash.Proofs.Screen.Colorless

/-!
# The colors that a cell shows

A cell has a color for its text and one behind it.  Each is the one that was named last for this
cell, so that whatever names no color can be left out of account.

* `Picture.color_cell` : **a cell shows the color that was named last.**
* `Block.eq_of_mem_colors` : a block without a title names nothing but its background behind its
  cells.
* `colors_paragraphClusters` : clusters of one color name it for the cells that they take.
* `colors_paragraphClusters_part` : **a line of text of which one part has a color names this color
  for the cells that the part takes, as far as there is room, and no color for all others.**
-/

namespace ShaperDash

/-! ### Layers -/

/-- The two colors of a cell. -/
inductive Layer
  | text
  | ground
  deriving DecidableEq, Repr

/-- The color that the look names. -/
def Style.color? (s : Style) : Layer → Option Rgb
  | .text => s.fg
  | .ground => s.bg

/-- The color that the mark names; a cell that is made blank gets the color of the terminal. -/
def Mark.color? (l : Layer) : Mark → Option Color
  | .style s => (s.color? l).map .rgb
  | .put _ s => (s.color? l).map .rgb
  | .extend _ s => (s.color? l).map .rgb
  | .clear => some .reset

/-- The color that the cell shows. -/
def Cell.color (c : Cell) : Layer → Color
  | .text => c.fg
  | .ground => c.bg

theorem Cell.color_apply (c : Cell) (m : Mark) (l : Layer) :
    (c.apply m).color l = (m.color? l).getD (c.color l) := by
  cases m <;> cases l <;> rfl

/-- The colors that are named for a cell, in their order. -/
def Picture.colors (p : Picture) (l : Layer) (x y : Nat) : List Color :=
  (p.marks x y).filterMap (Mark.color? l)

namespace Picture

variable {p q : Picture} {l : Layer} {x y : Nat}

/-- **A cell shows the color that was named last for it**, or else that of the terminal. -/
theorem color_cell (p : Picture) (l : Layer) (x y : Nat) :
    (p.cell x y).color l = (p.colors l x y).getLastD .reset := by
  have hfold : ∀ (ms : List Mark) (c : Cell),
      (ms.foldl Cell.apply c).color l = (ms.filterMap (Mark.color? l)).getLastD (c.color l) := by
    intro ms
    induction ms with
    | nil => exact fun _ => rfl
    | cons m ms ih =>
      intro c
      rw [List.foldl_cons, ih, Cell.color_apply, List.filterMap_cons]
      cases m.color? l with
      | none => rfl
      | some color => rw [List.getLastD_cons, Option.getD_some]
  have hblank : Cell.blank.color l = .reset := by cases l <;> rfl
  rw [cell, hfold, hblank, colors]

@[simp] theorem colors_append :
    (p ++ q).colors l x y = p.colors l x y ++ q.colors l x y := by
  rw [colors, marks_append, List.filterMap_append, colors, colors]

/-- What reaches no cell names no color for it. -/
theorem colors_of_marks_eq_nil (h : p.marks x y = []) : p.colors l x y = [] := by
  rw [colors, h, List.filterMap_nil]

/-- A color that is named for a cell is named by one of the strokes. -/
theorem exists_of_mem_colors {c : Color} (h : c ∈ p.colors l x y) :
    ∃ s ∈ p, s.x = x ∧ s.y = y ∧ s.mark.color? l = some c := by
  obtain ⟨m, hm, hc⟩ := List.mem_filterMap.1 h
  obtain ⟨s, hs, rfl⟩ := List.mem_map.1 hm
  obtain ⟨hs, hplace⟩ := List.mem_filter.1 hs
  simp only [Bool.and_eq_true, decide_eq_true_eq] at hplace
  exact ⟨s, hs, hplace.1, hplace.2, hc⟩

/-- Strokes that name no color leave the colors as they are. -/
theorem colors_eq_nil (h : ∀ s ∈ p, s.mark.color? l = none) : p.colors l x y = [] := by
  refine List.eq_nil_iff_forall_not_mem.2 fun c hc => ?_
  obtain ⟨s, hs, -, -, hsome⟩ := exists_of_mem_colors hc
  rw [h s hs] at hsome
  exact absurd hsome nofun

end Picture

/-! ### Blocks -/

variable {r : Region} {x y : Nat}

/-- Behind its cells a block without a title names nothing but its background. -/
theorem Block.eq_of_mem_colors {style : BlockStyle} {c : Color}
    (h : c ∈ (draw style [] r).colors .ground x y) : c = .rgb style.background := by
  obtain ⟨s, hs, -, -, hc⟩ := Picture.exists_of_mem_colors h
  have hpiece : ∀ (d : Char) (x y : Nat), (piece style d x y).mark.color? .ground = none :=
    fun _ _ _ => rfl
  have htitle : writeLine (titleRegion r) [] = [] := by
    rw [writeLine, writeSpans, ite_self]
  simp only [draw, border, upright, level, fill, htitle, List.append_nil] at hs
  split_ifs at hs with hempty
  · exact absurd hs List.not_mem_nil
  simp only [List.mem_append, List.mem_flatMap, List.mem_map, List.mem_cons, List.not_mem_nil,
    or_false] at hs
  obtain ⟨_, -, _, -, rfl⟩ | hs := hs
  · simpa [Mark.color?, Style.color?, Style.ofBg] using hc.symm
  · -- all other strokes are pieces of the border
    have hnone : s.mark.color? .ground = none := by
      rcases hs with (((⟨_, -, rfl⟩ | ⟨_, -, rfl⟩) | ⟨_, -, rfl⟩) | ⟨_, -, rfl⟩) | rfl | rfl |
        rfl | rfl
      all_goals exact hpiece _ _ _
    rw [hnone] at hc
    cases hc

/-! ### Lines of text -/

variable {room used : Nat} {cs : List (List Char × Style)}

/-- A line of text puts nothing but its clusters, each with its look. -/
theorem exists_of_mem_paragraphClusters :
    ∀ s ∈ paragraphClusters x y room used cs, ∃ p ∈ cs, s.mark = .put p.1 p.2 := by
  fun_induction paragraphClusters x y room used cs with
  | case1 => exact fun _ hs => absurd hs List.not_mem_nil
  | case2 used c style rest w hwide ih =>
    exact fun s hs => (ih s hs).imp fun _ h => ⟨List.mem_cons_of_mem _ h.1, h.2⟩
  | case3 => exact fun _ hs => absurd hs List.not_mem_nil
  | case4 used c style rest w hwide hroom hw ih =>
    exact fun s hs => (ih s hs).imp fun _ h => ⟨List.mem_cons_of_mem _ h.1, h.2⟩
  | case5 used c style rest w hwide hroom hw ih =>
    refine List.forall_mem_cons.2 ⟨⟨(c, style), List.mem_cons_self, rfl⟩, fun s hs => ?_⟩
    exact (ih s hs).imp fun _ h => ⟨List.mem_cons_of_mem _ h.1, h.2⟩

/-- A line of text whose looks name no color leaves the colors of all cells as they are. -/
theorem colors_paragraphClusters_eq_nil {l : Layer} {x' y' : Nat}
    (h : ∀ p ∈ cs, p.2.color? l = none) :
    (paragraphClusters x y room used cs).colors l x' y' = [] := by
  refine Picture.colors_eq_nil fun s hs => ?_
  obtain ⟨p, hp, hmark⟩ := exists_of_mem_paragraphClusters s hs
  rw [hmark, Mark.color?, h p hp, Option.map_none]

/-- Clusters of one column each name their color for as many cells as there is room for, one behind
the other, if all of them name the same one. -/
theorem colors_paragraphClusters {l : Layer} {color : Rgb} {x' y' : Nat}
    (hcolumns : ∀ p ∈ cs, textColumns p.1 = 1) (hcolor : ∀ p ∈ cs, p.2.color? l = some color) :
    (paragraphClusters x y room used cs).colors l x' y' =
      if (x + used ≤ x' ∧ x' < x + min room (used + cs.length)) ∧ y' = y then [.rgb color]
      else [] := by
  split_ifs with hplace
  · obtain ⟨⟨hx, hx'⟩, rfl⟩ := hplace
    obtain ⟨k, rfl⟩ := Nat.exists_eq_add_of_le hx
    have hk : k < cs.length := by omega
    have hmarks : (paragraphClusters x y' room used (cs ++ [])).marks (x + used + k) y' = _ :=
      marks_paragraphClusters hcolumns (by omega) hk
    rw [List.append_nil] at hmarks
    rw [Picture.colors, hmarks, List.filterMap_cons, Mark.color?, hcolor _ (List.getElem_mem hk)]
    rfl
  · refine Picture.colors_of_marks_eq_nil (Picture.marks_eq_nil fun s hs hx hy => hplace ?_)
    obtain ⟨hcolumn, hrow⟩ := paragraphClusters_columns hcolumns s hs
    rw [← hx, ← hy]
    exact ⟨hcolumn, hrow⟩

/-- **A line of text of which one part has a color** names this color for the cells that the part
takes behind what stands before it, as far as there is room, and no color for all others. -/
theorem colors_paragraphClusters_part {l : Layer} {color : Rgb} {x' y' : Nat}
    {before part after : List (List Char × Style)}
    (hbefore : ∀ p ∈ before, p.2.color? l = none) (hafter : ∀ p ∈ after, p.2.color? l = none)
    (hcolumns : ∀ p ∈ part, textColumns p.1 = 1) (hcolor : ∀ p ∈ part, p.2.color? l = some color) :
    (paragraphClusters x y room 0 (before ++ (part ++ after))).colors l x' y' =
      if (x + drawnColumns room before ≤ x' ∧
          x' < x + drawnColumns room before +
            min part.length (room - drawnColumns room before)) ∧ y' = y then
        [.rgb color]
      else [] := by
  rw [paragraphClusters_append (Nat.zero_le _), Picture.colors_append,
    colors_paragraphClusters_eq_nil hbefore, List.nil_append, Nat.zero_add]
  by_cases hfits : drawnColumns room before ≤ room
  · have hbehind : ∀ b : Prop, [Decidable b] → ∀ used,
        Picture.colors (if b then paragraphClusters x y room used after else []) l x' y' = [] := by
      intro b _ used
      split_ifs
      · exact colors_paragraphClusters_eq_nil hafter
      · rfl
    rw [if_pos hfits, paragraphClusters_append hfits, Picture.colors_append, hbehind,
      List.append_nil, colors_paragraphClusters hcolumns hcolor]
    refine if_congr ?_ rfl rfl
    omega
  · -- what stands before the part has ended the line
    rw [if_neg hfits, if_neg (by omega)]
    rfl

end ShaperDash
