import Mathlib.Data.Finset.Prod
import Mathlib.Order.Interval.Finset.Nat
import ShaperDash.Pane.Title
import ShaperDash.Proofs.Screen.Colors

/-!
# The badge that asks for a reload

The badge stands behind spans that take different columns, among them the name of an interface, and
is cut off where the row ends.  It alone has its background, so that the cells with this background
tell how much of it there is.

* `TitleBar.badgeCells` : the cells of a title bar with the background of the badge.
* `TitleBar.colors_line` : the line of the title bar names this background for the cells of the
  badge and for no others.
* `TitleBar.badge_shown_exactly` : **the badge is shown exactly if a reload is asked for, as far as
  the row has room behind what stands before it**.
* `TitleBar.not_badge_behind_all_columns` : what stands before it need not take the columns of its
  texts, as a cluster wider than the row is left out.
-/

namespace ShaperDash

namespace TitleBar

variable {d : Dashboard} {c : Clocks} {r : Region} {x y : Nat}

/-- The cells of a title bar with the background of the badge. -/
def badgeCells (d : Dashboard) (c : Clocks) (r : Region) : Finset (Nat × Nat) :=
  (Finset.Ico r.x (r.x + r.width) ×ˢ Finset.Ico r.y (r.y + r.height)).filter fun q =>
    ((draw d c r).cell q.1 q.2).bg = .rgb Theme.alert

/-! ### Clusters -/

theorem length_badge : (styledClusters [badge]).length = badge.columns := by decide +kernel

/-- Each cluster of the badge takes one column, and each has the background of the badge. -/
theorem badge_clusters :
    ∀ p ∈ styledClusters [badge],
      textColumns p.1 = 1 ∧ p.2.color? .ground = some Theme.alert := by
  decide +kernel

theorem color?_of_mem_styledClusters {spans : List Span} {l : Layer}
    (h : ∀ s ∈ spans, s.style.color? l = none) :
    ∀ p ∈ styledClusters spans, p.2.color? l = none := by
  intro p hp
  obtain ⟨s, hs, hp⟩ := List.mem_flatMap.1 hp
  obtain ⟨_, -, rfl⟩ := List.mem_map.1 hp
  exact h s hs

theorem leading_color? (d : Dashboard) :
    ∀ p ∈ styledClusters (leading d), p.2.color? .ground = none := by
  refine color?_of_mem_styledClusters fun s hs => ?_
  simp only [leading, List.mem_cons, List.not_mem_nil, or_false] at hs
  rcases hs with rfl | rfl | rfl | rfl | rfl | rfl
  case inr.inr.inr.inr.inr =>
    unfold hostCounts
    cases d.status <;> rfl
  all_goals rfl

theorem trailing_color? (c : Clocks) :
    ∀ p ∈ styledClusters (trailing c), p.2.color? .ground = none := by
  refine color?_of_mem_styledClusters fun s hs => ?_
  simp only [trailing, List.mem_cons, List.not_mem_nil, or_false] at hs
  rcases hs with rfl | rfl | rfl <;> rfl

/-! ### The line -/

/-- The columns in front of the badge, in a title bar of this width. -/
def badgeStart (d : Dashboard) (width : Nat) : Nat :=
  drawnColumns (width - 2) (styledClusters (leading d))

/-- How many columns of the badge there is room for, in a title bar of this width. -/
def badgeRoom (d : Dashboard) (width : Nat) : Nat :=
  if reloadWarning d.status then min badge.columns (width - 2 - badgeStart d width) else 0

/-- The line of the title bar names the background of the badge for the cells of the badge, and no
background for all others. -/
theorem colors_line (hrow : 0 < r.inner.height) :
    (paragraphLine r.inner (spans d c)).colors .ground x y =
      if (r.inner.x + badgeStart d r.width ≤ x ∧
          x < r.inner.x + badgeStart d r.width + badgeRoom d r.width) ∧ y = r.inner.y then
        [.rgb Theme.alert]
      else [] := by
  have hbadge : ∀ p ∈ styledClusters (if reloadWarning d.status then [badge] else []),
      textColumns p.1 = 1 ∧ p.2.color? .ground = some Theme.alert := by
    split_ifs
    · exact badge_clusters
    · exact List.forall_mem_nil _
  have hlength : badgeRoom d r.width =
      min (styledClusters (if reloadWarning d.status then [badge] else [])).length
        (r.width - 2 - badgeStart d r.width) := by
    unfold badgeRoom
    split_ifs
    · rw [length_badge]
    · exact (Nat.zero_min _).symm
  rw [paragraphLine, if_neg (Nat.ne_of_gt hrow), spans, List.append_assoc, styledClusters_append,
    styledClusters_append, hlength]
  exact colors_paragraphClusters_part (leading_color? d) (trailing_color? c)
    (fun p hp => (hbadge p hp).1) fun p hp => (hbadge p hp).2

/-! ### The title bar -/

/-- **A cell of the title bar has the background of the badge** exactly if it is one of those that
the badge takes. -/
theorem bg_eq_alert_iff (hheight : 3 ≤ r.height) :
    ((draw d c r).cell x y).bg = .rgb Theme.alert ↔
      (r.inner.x + badgeStart d r.width ≤ x ∧
        x < r.inner.x + badgeStart d r.width + badgeRoom d r.width) ∧ y = r.inner.y := by
  have hrow : 0 < r.inner.height := Nat.sub_pos_of_lt hheight
  have hcolor : ((draw d c r).cell x y).bg = ((draw d c r).cell x y).color .ground := rfl
  rw [hcolor, Picture.color_cell, draw, Picture.colors_append, colors_line hrow]
  split_ifs with hplace
  · simp [hplace]
  · refine iff_of_false (fun heq => ?_) hplace
    -- without the line only the background of the block is left
    rw [List.append_nil, List.getLastD_eq_getLast?] at heq
    cases hlast : ((Block.draw Theme.block [] r).colors .ground x y).getLast? with
    | none => exact absurd (hlast ▸ heq) nofun
    | some color =>
      have hground := Block.eq_of_mem_colors (List.mem_of_getLast? hlast)
      rw [hlast, Option.getD_some, hground] at heq
      exact absurd heq (by decide)

theorem badgeCells_eq (hheight : 3 ≤ r.height) :
    badgeCells d c r =
      Finset.Ico (r.inner.x + badgeStart d r.width)
        (r.inner.x + badgeStart d r.width + badgeRoom d r.width) ×ˢ {r.inner.y} := by
  have hroom : badgeRoom d r.width ≤ r.width - 2 - badgeStart d r.width := by
    unfold badgeRoom
    split_ifs <;> omega
  ext ⟨x, y⟩
  simp only [badgeCells, Finset.mem_filter, Finset.mem_product, Finset.mem_Ico,
    Finset.mem_singleton, bg_eq_alert_iff hheight, and_iff_right_iff_imp]
  -- the row lies inside the title bar
  simp only [Region.inner]
  omega

theorem card_badgeCells (hheight : 3 ≤ r.height) :
    (badgeCells d c r).card = badgeRoom d r.width := by
  rw [badgeCells_eq hheight, Finset.card_product, Finset.card_singleton, Nat.card_Ico, Nat.mul_one,
    Nat.add_sub_cancel_left]

/-- **The badge is shown exactly if a reload is asked for.**  In a title bar of three rows or more,
in front of any clocks and behind an interface of any name, let `before` be the columns of the
clusters that stand before the badge, but for line ends and for clusters wider than the row, which
are not drawn.  Then there are as many cells with the background of the badge as the badge has
columns, or as there is room for behind `before`, or none if no reload is asked for.  They lie side
by side in the row inside the border, the first of them behind `before`, and no cell elsewhere has
this background.  If no cluster is wider than the row, all of them count. -/
theorem badge_shown_exactly (d : Dashboard) (c : Clocks) (r : Region) (hheight : 3 ≤ r.height) :
    let before := drawnColumns (r.width - 2) (styledClusters (leading d))
    let shown := if reloadWarning d.status then min badge.columns (r.width - 2 - before) else 0
    (badgeCells d c r).card = shown ∧
      badgeCells d c r =
        Finset.Ico (r.inner.x + before) (r.inner.x + before + shown) ×ˢ {r.inner.y} ∧
      (∀ x y, ((draw d c r).cell x y).bg = .rgb Theme.alert → (x, y) ∈ badgeCells d c r) ∧
      ((∀ p ∈ styledClusters (leading d), textColumns p.1 ≤ r.width - 2) →
        before = (styledClusters (leading d)).foldr (fun p n => textColumns p.1 + n) 0) := by
  refine ⟨card_badgeCells hheight, badgeCells_eq hheight, fun x y hbg => ?_, drawnColumns_of_le⟩
  rw [badgeCells_eq hheight, Finset.mem_product, Finset.mem_Ico, Finset.mem_singleton]
  exact (bg_eq_alert_iff hheight).1 hbg

/-- A dashboard with a status that asks for a reload. -/
def reloadable (interfaceName : String) : Dashboard :=
  { Dashboard.start Config.default with
    interfaceName := interfaceName
    status := some ⟨⟨120, 7⟩, true, [], []⟩ }

/-- In front of a badge that is cut off after five columns, a name with a line end and a wide
character. -/
theorem badge_shown_exactly_cut_off :
    let d := reloadable "塔\n0"
    let r : Region := ⟨0, 0, 66, 3⟩
    3 ≤ r.height ∧ (badgeCells d ⟨0, "00:00:00"⟩ r).card = 5 ∧
      badgeCells d ⟨0, "00:00:00"⟩ r = Finset.Ico 60 65 ×ˢ {1} := by
  intro d r
  obtain ⟨hcard, hcells, -, -⟩ := badge_shown_exactly d ⟨0, "00:00:00"⟩ r (by decide)
  have hbefore : drawnColumns (r.width - 2) (styledClusters (leading d)) = 59 := by decide +kernel
  have hwarning : reloadWarning d.status = true := rfl
  have hcolumns : badge.columns = 19 := by decide +kernel
  simp only [hbefore, hwarning, hcolumns] at hcard hcells
  exact ⟨by decide, hcard, hcells⟩

/-- The columns of the texts in front of the badge do not tell where it begins: a name that is one
cluster wider than the row is left out, and the badge takes its place. -/
theorem not_badge_behind_all_columns :
    ¬ ∀ (d : Dashboard) (c : Clocks) (r : Region), 3 ≤ r.height →
      (badgeCells d c r).card =
        if reloadWarning d.status then
          min badge.columns (r.width - 2 - (leading d).foldr (fun s n => s.columns + n) 0)
        else 0 := by
  intro h
  let d := reloadable (String.ofList (List.replicate 40 '\u1100'))
  have hcard := h d ⟨0, ""⟩ ⟨0, 0, 77, 3⟩ (by decide)
  rw [card_badgeCells (by decide)] at hcard
  exact absurd hcard (by decide +kernel)

end TitleBar

end ShaperDash
