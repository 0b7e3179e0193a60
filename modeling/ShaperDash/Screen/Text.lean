import ShaperDash.Screen.Picture
import ShaperDash.Text.Cluster
import ShaperDash.Text.Extent

/-!
# Text on the screen

Text is drawn cluster by cluster into a room of so many columns.  A `Span` is text of one look.
`paragraphLine` lets nothing but whole clusters with a width onto the screen; `writeSpan` also keeps
marks without a width, by adding them to the cell before, and blanks the cells that a wide cluster
hides.
-/

namespace ShaperDash

/-- Text of one look. -/
structure Span where
  text : String
  style : Style
  deriving DecidableEq, Repr

namespace Span

/-- The clusters that are drawn; line ends are not. -/
def clusters (s : Span) : List (List Char) :=
  (ShaperDash.clusters s.text.toList).filter (· ≠ ['\n'])

/-- The columns that the text takes. -/
def columns (s : Span) : Nat := textColumns s.text.toList

end Span

/-- The clusters of some spans, each with its look. -/
def styledClusters (spans : List Span) : List (List Char × Style) :=
  spans.flatMap fun s => s.clusters.map fun c => (c, s.style)

/-! ### Lines of a paragraph -/

/-- Draws clusters from column `x` on, of which `used` of `room` columns are taken.  A cluster wider
than the whole room is left out, and the first one that no longer fits ends the line.  Terminals
count the columns of a cluster in sixteen bits and draw the same as long as none takes 65536 columns
or more. -/
def paragraphClusters (x y room : Nat) : Nat → List (List Char × Style) → Picture
  | _, [] => []
  | used, (c, style) :: rest =>
    let w := textColumns c
    if room < w then paragraphClusters x y room used rest
    else if room < used + w then []
    else if w = 0 then paragraphClusters x y room used rest
    else ⟨x + used, y, .put c style⟩ :: paragraphClusters x y room (used + w) rest

/-- Draws a line of a paragraph into the upper row of a rectangle, if it has one. -/
def paragraphLine (r : Region) (spans : List Span) : Picture :=
  if r.height = 0 then [] else paragraphClusters r.x r.y r.width 0 (styledClusters spans)

/-! ### Spans on their own -/

/-- Blanks the cells that a cluster of width `w` in column `x` hides. -/
def hiddenCells (x y w : Nat) : Picture :=
  (List.range (w - 1)).map fun i => ⟨x + 1 + i, y, .clear⟩

/-- Draws clusters from column `x` on, of which `used` of `room` columns are taken.  For clusters of
65536 columns or more the same holds as in a paragraph. -/
def writeClusters (x y room : Nat) (style : Style) :
    (first : Bool) → Nat → List (List Char) → Picture
  | _, _, [] => []
  | first, used, c :: rest =>
    let w := textColumns c
    if room < used + w then []
    else
      let stroke : Stroke :=
        if first then ⟨x, y, .put c style⟩
        else if used = 0 then ⟨x, y, .extend c style⟩
        else if w = 0 then ⟨x + used - 1, y, .extend c style⟩
        else ⟨x + used, y, .put c style⟩
      stroke :: (hiddenCells (x + used) y w ++ writeClusters x y room style false (used + w) rest)

/-- Draws spans one behind the other into a room of columns. -/
def writeSpans (x y : Nat) : Nat → List Span → Picture
  | _, [] => []
  | room, s :: rest =>
    if room = 0 then []
    else
      let w := s.columns
      writeClusters x y room s.style true 0 s.clusters ++ writeSpans (x + w) y (room - w) rest

/-- Draws spans one behind the other into the upper row of a rectangle, if it has one. -/
def writeLine (r : Region) (spans : List Span) : Picture :=
  if r.height = 0 then [] else writeSpans r.x r.y r.width spans

/-! ### Rectangles -/

/-- Changes the look of all cells of a rectangle. -/
def fill (r : Region) (style : Style) : Picture :=
  (List.range r.height).flatMap fun j =>
    (List.range r.width).map fun i => ⟨r.x + i, r.y + j, .style style⟩

end ShaperDash
