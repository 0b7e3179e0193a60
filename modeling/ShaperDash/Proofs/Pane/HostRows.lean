import ShaperDash.Proofs.Screen.Cells
import ShaperDash.Proofs.Screen.Pasted

/-!
# The rows of a host table

A table draws the row of each host from that host alone, and all rows in the same way, so that the
row of a host is the same in every table of the same place and size, but for its height.  Names of
any characters stay in their row, also those with line ends, as rows are local.

* `HostTable.cell_body_congr` : **a row is told by the host that it belongs to.**
* `HostTable.cell_body_none` : a row that belongs to no host is blank.
* `HostsPane.rows_of_hosts` : **the tables of the pane, row by row.**
-/

namespace ShaperDash

open Picture

namespace HostTable

variable {title : String} {hosts hosts' : List HostStats} {palette : Palette} {r : Region}
  {x i j : Nat}

/-! ### The body -/

/-- The row of each host is the upper row of the body, moved down. -/
theorem row_eq_shift (h : HostStats) (palette : Palette) (r : Region) (i : Nat) :
    row h palette (r.row i) = (row h palette (r.row 0)).shift 0 i := by
  rw [← (row_local palette h).shift]
  rfl

/-- In each row below the header only its own host is drawn. -/
theorem marks_rows (hi : i < r.height - 1) :
    (rows hosts palette r).marks x (r.y + (1 + i)) =
      (hosts[i]?.map fun h => (row h palette (r.row 0)).marks x r.y).getD [] := by
  have hnumbered := marks_numbered (l := hosts.take (r.height - 1)) (i := i) (x := x)
    (y := r.y + (1 + i)) (f := fun h i => row h palette (r.row (1 + i))) fun h j hj => by
      refine ((row_local palette h).within _).marks_eq_nil fun hcovers => ?_
      simp only [Region.Covers, Region.row] at hcovers
      omega
  refine hnumbered.trans ?_
  rw [List.getElem?_take_of_lt hi]
  cases hosts[i]? with
  | none => simp only [Option.map_none]
  | some h =>
    have hmoved := marks_shift (p := row h palette (r.row 0)) 0 (1 + i) x r.y
    rw [← row_eq_shift, Nat.zero_add, Nat.add_comm (1 + i)] at hmoved
    simpa only [Option.map_some, Option.getD_some] using hmoved

/-- What the rows of a table draw on the row of a host. -/
theorem marks_draw (hi : i < r.height - 3) :
    (draw title hosts palette r).marks x (r.y + 2 + i) =
      (Block.draw Theme.block [⟨title, .boldFg Theme.heading⟩] r).marks x (r.y + 2 + i) ++
        if r.inner.width = 0 then []
        else
          (hosts[i]?.map fun h => (row h palette (r.inner.row 0)).marks x r.inner.y).getD [] := by
  have hheight : r.inner.height = r.height - 2 := rfl
  have hplace : r.y + 2 + i = r.inner.y + (1 + i) := by
    simp only [Region.inner]
    omega
  have hheader : (header (r.inner.row 0)).marks x (r.inner.y + (1 + i)) = [] := by
    refine (header_local.within _).marks_eq_nil fun hcovers => ?_
    simp only [Region.Covers, Region.row] at hcovers
    omega
  rw [draw, marks_append]
  congr 1
  by_cases hwidth : r.inner.width = 0
  · rw [if_pos (.inl hwidth), if_pos hwidth, marks_nil]
  · rw [if_neg (by omega), if_neg hwidth, marks_append, hplace, hheader, List.nil_append,
      marks_rows (by omega)]

/-- **A row is told by the host that it belongs to**, whatever the other hosts are, and it is the
same for the first host and for a later one. -/
theorem cell_body_congr (hi : i < r.height - 3) (hj : j < r.height - 3)
    (h : hosts[i]? = hosts'[j]?) (x : Nat) :
    (draw title hosts palette r).cell x (r.y + 2 + i) =
      (draw title hosts' palette r).cell x (r.y + 2 + j) := by
  have hblock : ∀ k < r.height - 3,
      (Block.draw Theme.block [⟨title, .boldFg Theme.heading⟩] r).marks x (r.y + 2 + k) =
        if r.width = 0 then [] else Block.beside Theme.block r x := by
    intro k hk
    split_ifs with hwidth
    · rw [Block.draw, if_pos (.inl hwidth), marks_nil]
    · exact Block.marks_middle (by omega) (by omega) (by omega)
  rw [cell, cell, marks_draw hi, marks_draw hj, hblock i hi, hblock j hj, h]

/-- A row that belongs to no host is blank. -/
theorem cell_body_none (hi : i < r.height - 3) (h : hosts.length ≤ i) (hx : x < r.inner.width) :
    (draw title hosts palette r).cell (r.inner.x + x) (r.y + 2 + i) =
      ⟨[' '], .reset, .rgb Theme.backdrop, false⟩ := by
  have hinside : r.inner.Covers (r.inner.x + x) (r.y + 2 + i) := by
    simp only [Region.Covers, Region.inner] at hx ⊢
    omega
  rw [cell, marks_draw hi, Block.marks_inner hinside, List.getElem?_eq_none h]
  split_ifs <;> rfl

end HostTable

/-! ### The pane -/

namespace HostsPane

/-- The hosts of the upper table. -/
def busiest (d : Dashboard) : List HostStats := (d.status.map (·.topDownloaders)).getD []

/-- The hosts of the lower table. -/
def slowest (d : Dashboard) : List HostStats := (d.status.map (·.worstRoundTrips)).getD []

/-- **Every host has a row of its own.**  In a table of any place and size, with hosts of any names
and either palette,

* the row of each host that there is room for is, cell for cell, the first row of the table of this
  host alone;
* the rows below the last host are blank;
* tables that agree in the host of a row agree in the row, whatever their other hosts are.

In the pane the upper half shows the table of the hosts with the most traffic and nothing else, and
the lower half that of the hosts with the longest round trips. -/
theorem rows_of_hosts :
    (∀ (title : String) (hosts : List HostStats) (palette : Palette) (r : Region),
      let table (hosts : List HostStats) := HostTable.draw title hosts palette r
      let body := r.y + 2
      (∀ (i : Nat) (hi : i < min (r.height - 3) hosts.length) (x : Nat),
        (table hosts).cell x (body + i) = (table [hosts[i]]).cell x body) ∧
      (∀ i < r.height - 3, hosts.length ≤ i → ∀ x < r.inner.width,
        (table hosts).cell (r.inner.x + x) (body + i) =
          ⟨[' '], .reset, .rgb Theme.backdrop, false⟩) ∧
      ∀ (hosts' : List HostStats) (i : Nat), i < r.height - 3 → hosts'[i]? = hosts[i]? → ∀ x,
        (table hosts').cell x (body + i) = (table hosts).cell x (body + i)) ∧
    ∀ (d : Dashboard) (r : Region) (x y : Nat),
      (r.upperHalf.Covers x y → (draw d r).cell x y =
        (HostTable.draw " Top Downloaders " (busiest d) d.palette r.upperHalf).cell x y) ∧
      (r.lowerHalf.Covers x y → (draw d r).cell x y =
        (HostTable.draw " Worst RTT " (slowest d) d.palette r.lowerHalf).cell x y) := by
  refine ⟨fun title hosts palette r => ⟨?_, ?_, ?_⟩, fun d r x y => ⟨?_, ?_⟩⟩
  · intro i hi x
    obtain ⟨hroom, hlength⟩ := Nat.lt_min.1 hi
    exact HostTable.cell_body_congr (j := 0) hroom (by omega)
      (List.getElem?_eq_getElem hlength) x
  · intro i hroom hnone x hx
    exact HostTable.cell_body_none hroom hnone hx
  · intro hosts' i hroom hsame x
    exact HostTable.cell_body_congr hroom hroom hsame x
  · intro h
    exact (HostTable.draw_local ..).cell_upperHalf (f := HostTable.draw _ _ _) h
  · intro h
    exact (HostTable.draw_local ..).cell_lowerHalf (g := HostTable.draw _ _ _) h

/-- A name with a line end and one of wide characters, and a row below them. -/
theorem rows_of_hosts_unusual_names :
    let first : HostStats := ⟨"a\nb", ⟨1, 2⟩, zeroSingle⟩
    let second : HostStats := ⟨"塔 3", ⟨1500000, 1125⟩, .finite false 25 (-1)⟩
    let r : Region := ⟨3, 1, 60, 7⟩
    let table (hosts : List HostStats) := HostTable.draw " Worst RTT " hosts .regular r
    let d : Dashboard := { Dashboard.start Config.default with
      status := some ⟨⟨1, 0⟩, false, [], [first, second]⟩ }
    (1 < min (r.height - 3) 2 ∧ (table [first, second]).cell 4 4 = (table [second]).cell 4 3 ∧
      ((table [second]).cell 4 3).symbol = ['塔']) ∧
    (2 < r.height - 3 ∧ ((table [first, second]).cell 4 5).symbol = [' ']) ∧
    (table [second, second]).cell 4 4 = (table [first, second]).cell 4 4 ∧
    ((Region.ofSize 40 12).upperHalf.Covers 1 2 ∧ (Region.ofSize 40 12).lowerHalf.Covers 1 8 ∧
      ((draw d (.ofSize 40 12)).cell 1 2).symbol = [' '] ∧
      ((draw d (.ofSize 40 12)).cell 1 8).symbol = ['a']) := by
  intro first second r table d
  obtain ⟨htable, hpane⟩ := rows_of_hosts
  obtain ⟨hrow, hblank, hsame⟩ := htable " Worst RTT " [first, second] .regular r
  obtain ⟨hupper, -⟩ := hpane d (.ofSize 40 12) 1 2
  obtain ⟨-, hlower⟩ := hpane d (.ofSize 40 12) 1 8
  refine ⟨⟨by decide, hrow 1 (by decide) 4, by decide +kernel⟩, ⟨by decide, ?_⟩,
    hsame [second, second] 1 (by decide) rfl 4, by decide, by decide, ?_, ?_⟩
  · exact congrArg Cell.symbol (hblank 2 (by decide) (by decide) 0 (by decide))
  · exact (congrArg Cell.symbol (hupper (by decide))).trans (by decide +kernel)
  · exact (congrArg Cell.symbol (hlower (by decide))).trans (by decide +kernel)

end HostsPane

end ShaperDash
