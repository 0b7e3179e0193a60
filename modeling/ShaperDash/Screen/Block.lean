import ShaperDash.Screen.Text

/-!
# Bordered blocks

A block fills its rectangle with a background, draws a border around it and writes a title into the
upper edge.
-/

namespace ShaperDash

/-- The look of a block. -/
structure BlockStyle where
  border : Rgb
  background : Rgb
  deriving DecidableEq, Repr

namespace Block

/-- A piece of the border. -/
def piece (style : BlockStyle) (c : Char) (x y : Nat) : Stroke :=
  ⟨x, y, .put [c] (.ofFg style.border)⟩

/-- An upright edge in column `x`. -/
def upright (style : BlockStyle) (r : Region) (x : Nat) : Picture :=
  (List.range r.height).map fun j => piece style '│' x (r.y + j)

/-- A level edge in row `y`. -/
def level (style : BlockStyle) (r : Region) (y : Nat) : Picture :=
  (List.range r.width).map fun i => piece style '─' (r.x + i) y

/-- The border of a rectangle that has a row and a column at least; corners are drawn over edges and
those above over those below. -/
def border (style : BlockStyle) (r : Region) : Picture :=
  let right := r.x + (r.width - 1)
  let bottom := r.y + (r.height - 1)
  upright style r r.x ++ level style r r.y ++ upright style r right ++ level style r bottom ++
    [piece style '┘' right bottom, piece style '┐' right r.y, piece style '└' r.x bottom,
     piece style '┌' r.x r.y]

/-- The place of the title, between the corners of the upper edge. -/
def titleRegion (r : Region) : Region := ⟨r.x + 1, r.y, r.width - 2, 1⟩

/-- A block with its title. -/
def draw (style : BlockStyle) (title : List Span) (r : Region) : Picture :=
  if r.width = 0 ∨ r.height = 0 then []
  else
    fill r (.ofBg style.background) ++ border style r ++ writeLine (titleRegion r) title

end Block

end ShaperDash
