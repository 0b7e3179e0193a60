import ShaperDash.Palette

/-!
# Pictures

A `Picture` is a list of strokes, each of which changes one cell of the screen; later strokes are
drawn over earlier ones.  `Picture.cell` is the cell that comes out at a place, and `Picture.screen`
all cells of a screen, row by row.  Pictures are put together by `++`.  Whatever is drawn is drawn
into a `Region` of the screen.
-/

namespace ShaperDash

/-- A rectangle of cells. -/
structure Region where
  x : Nat
  y : Nat
  width : Nat
  height : Nat
  deriving DecidableEq, Repr

namespace Region

/-- All of a screen. -/
def ofSize (width height : Nat) : Region := ⟨0, 0, width, height⟩

variable (r : Region)

/-- The row with the number `i`, or what stands below the rectangle. -/
def row (i : Nat) : Region := ⟨r.x, r.y + i, r.width, 1⟩

/-- The column with the number `i`, or what stands to the right of the rectangle. -/
def column (i : Nat) : Region := ⟨r.x + i, r.y, 1, r.height⟩

/-- What is left inside a border. -/
def inner : Region := ⟨r.x + 1, r.y + 1, r.width - 2, r.height - 2⟩

/-- The upper half, which gets the odd row. -/
def upperHalf : Region := ⟨r.x, r.y, r.width, (r.height + 1) / 2⟩

/-- The lower half. -/
def lowerHalf : Region :=
  ⟨r.x, r.y + (r.height + 1) / 2, r.width, r.height - (r.height + 1) / 2⟩

end Region

/-- A color of the terminal. -/
inductive Color
  | reset
  | rgb (c : Rgb)
  deriving DecidableEq, Repr

/-- What a stroke changes of the look of a cell; what is not named stays. -/
structure Style where
  fg : Option Rgb
  bg : Option Rgb
  /-- Turns bold on; it is never turned off. -/
  bold : Bool
  deriving DecidableEq, Repr

namespace Style

def none : Style := ⟨.none, .none, false⟩

def ofFg (c : Rgb) : Style := ⟨some c, .none, false⟩

def ofBg (c : Rgb) : Style := ⟨.none, some c, false⟩

def boldFg (c : Rgb) : Style := ⟨some c, .none, true⟩

end Style

/-- A cell of the screen. -/
structure Cell where
  symbol : List Char
  fg : Color
  bg : Color
  bold : Bool
  deriving DecidableEq, Repr

/-- What a stroke does to a cell. -/
inductive Mark
  /-- Changes the look. -/
  | style (s : Style)
  /-- Sets the symbol and changes the look. -/
  | put (symbol : List Char) (s : Style)
  /-- Adds to the symbol and changes the look. -/
  | extend (symbol : List Char) (s : Style)
  /-- Makes the cell blank. -/
  | clear
  deriving DecidableEq, Repr

namespace Cell

/-- The cell that nothing was drawn on. -/
def blank : Cell := ⟨[' '], .reset, .reset, false⟩

/-- The cell with a changed look. -/
def restyle (c : Cell) (s : Style) : Cell where
  symbol := c.symbol
  fg := (s.fg.map Color.rgb).getD c.fg
  bg := (s.bg.map Color.rgb).getD c.bg
  bold := c.bold || s.bold

/-- The cell after one mark. -/
def apply (c : Cell) : Mark → Cell
  | .style s => c.restyle s
  | .put symbol s => { c with symbol := symbol }.restyle s
  | .extend symbol s => { c with symbol := c.symbol ++ symbol }.restyle s
  | .clear => blank

end Cell

/-- A mark on one cell. -/
structure Stroke where
  x : Nat
  y : Nat
  mark : Mark
  deriving DecidableEq, Repr

/-- Strokes, drawn one after the other. -/
abbrev Picture := List Stroke

namespace Picture

variable (p : Picture)

/-- The marks on one cell, in their order. -/
def marks (x y : Nat) : List Mark :=
  (p.filter fun s => s.x = x && s.y = y).map (·.mark)

/-- The cell at a place. -/
def cell (x y : Nat) : Cell := (p.marks x y).foldl Cell.apply .blank

/-- The rows of a screen. -/
def screen (width height : Nat) : List (List Cell) :=
  (List.range height).map fun y =>
    let row : Picture := p.filter (·.y = y)
    (List.range width).map fun x => row.cell x y

/-! ### Cells of composed pictures -/

@[simp] theorem marks_nil (x y : Nat) : marks [] x y = [] := rfl

@[simp] theorem marks_append (p q : Picture) (x y : Nat) :
    marks (p ++ q) x y = marks p x y ++ marks q x y := by
  simp [marks]

theorem cell_filter_row (x y : Nat) : cell (p.filter (·.y = y)) x y = p.cell x y := by
  simp only [cell, marks, List.filter_filter]
  congr 3
  funext s
  by_cases h : s.y = y <;> simp [h]

theorem screen_eq (width height : Nat) :
    p.screen width height =
      (List.range height).map fun y => (List.range width).map fun x => p.cell x y := by
  simp only [screen, cell_filter_row]

end Picture

end ShaperDash
