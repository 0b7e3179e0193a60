import ShaperDash.Dashboard
import ShaperDash.Pane.Theme

/-!
# The hosts pane

Two tables of hosts, those with the most traffic above those with the longest round trips.  A table
has a header and a row for each host, as many as there is room for; a row is drawn from its host
alone.
-/

namespace ShaperDash

namespace HostTable

/-! ### Columns -/

/-- The widths of the columns of a table: the last three have 12, 12 and 10 as far as the first
keeps 20, and one blank column lies between two. -/
def widths (width : Nat) : List Nat :=
  let spare := width - 3 - 20
  let down := min 12 spare
  let up := min 12 (spare - down)
  let roundTrip := min 10 (spare - down - up)
  [width - 3 - down - up - roundTrip, down, up, roundTrip]

/-- The places of columns of these widths, from column `x` on. -/
def places (x : Nat) : List Nat → List Nat
  | [] => []
  | w :: ws => x :: places (x + w + 1) ws

/-- The columns of a table in a rectangle. -/
def columns (r : Region) : List Region :=
  let ws := widths r.width
  ((places r.x ws).zip ws).map fun (x, w) => ⟨x, r.y, w, r.height⟩

/-! ### Cells -/

/-- Text in a cell, and the look of the whole cell. -/
structure Content where
  text : String
  style : Style
  deriving DecidableEq, Repr

/-- The first line of a text, without its line end. -/
def firstLine (cs : List Char) : List Char :=
  let line := cs.takeWhile (· ≠ '\n')
  if line.length < cs.length ∧ line.getLast? = some '\r' then line.dropLast else line

/-- Draws a cell into a rectangle of one row. -/
def drawCell (r : Region) (c : Content) : Picture :=
  let line : Span := ⟨String.ofList (firstLine c.text.toList), .none⟩
  fill r c.style ++ (if line.columns = 0 then [] else writeLine r [line])

/-- Draws the cells of a row into a rectangle of one row. -/
def drawCells (r : Region) (cells : List Content) : Picture :=
  ((columns r).zip cells).flatMap fun (q, c) => drawCell q c

/-! ### Rows -/

/-- The look of the header. -/
def headerStyle : Style := .boldFg Theme.caption

/-- The header of a table, in a rectangle of one row. -/
def header (r : Region) : Picture :=
  fill r headerStyle ++ drawCells r (["Host", "Down", "Up", "RTT"].map fun s => ⟨s, .none⟩)

/-- The cells of a host. -/
def hostCells (h : HostStats) (palette : Palette) : List Content :=
  [⟨h.address, .ofFg Theme.name⟩,
   ⟨scaleCount h.rates.down.toNat ++ "bps", .ofFg Theme.down⟩,
   ⟨scaleCount h.rates.up.toNat ++ "bps", .ofFg Theme.up⟩,
   ⟨h.roundTrip.fixed 1 ++ " ms", .ofFg (palette.swatch h.roundTrip).rgb⟩]

/-- The row of a host, in a rectangle of one row. -/
def row (h : HostStats) (palette : Palette) (r : Region) : Picture :=
  drawCells r (hostCells h palette)

/-- The rows of a table below its header, as many as there is room for. -/
def rows (hosts : List HostStats) (palette : Palette) (r : Region) : Picture :=
  (hosts.take (r.height - 1)).zipIdx.flatMap fun (h, i) => row h palette (r.row (1 + i))

/-- A table in its block. -/
def draw (title : String) (hosts : List HostStats) (palette : Palette) (r : Region) : Picture :=
  Block.draw Theme.block [⟨title, .boldFg Theme.heading⟩] r ++
    (if r.inner.width = 0 ∨ r.inner.height = 0 then []
     else header (r.inner.row 0) ++ rows hosts palette r.inner)

end HostTable

namespace HostsPane

/-- The hosts pane. -/
def draw (d : Dashboard) (r : Region) : Picture :=
  let top := (d.status.map (·.topDownloaders)).getD []
  let worst := (d.status.map (·.worstRoundTrips)).getD []
  HostTable.draw " Top Downloaders " top d.palette r.upperHalf ++
    HostTable.draw " Worst RTT " worst d.palette r.lowerHalf

end HostsPane

end ShaperDash
