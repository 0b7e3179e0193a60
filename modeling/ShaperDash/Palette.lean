import ShaperDash.Number.Binary

/-!
# Palettes

A palette turns a score, a round trip in milliseconds or a load in percent, into a color.  It is cut
into brackets with inclusive upper bounds; a score takes the color of the first bracket that it does
not exceed, and the top color above all of them.  Something that is no number exceeds every bound.
-/

namespace ShaperDash

/-- A color by its parts of red, green and blue. -/
structure Rgb where
  red : UInt8
  green : UInt8
  blue : UInt8
  deriving DecidableEq, Repr

/-- A color of a palette with its name, a hex code or a color word. -/
structure Swatch where
  name : String
  rgb : Rgb
  deriving DecidableEq, Repr

/-- Which set of brackets colors the dashboard. -/
inductive Palette
  | regular
  | metaverse
  deriving DecidableEq, Repr

namespace Palette

/-- The palette that a toggle leads to. -/
def other : Palette → Palette
  | regular => metaverse
  | metaverse => regular

/-- What the toggle hint calls the palette. -/
def label : Palette → String
  | regular => "(regular colors)"
  | metaverse => "(metaverse colors)"

/-- What documents call the palette. -/
def keyword : Palette → String
  | regular => "regular"
  | metaverse => "metaverse"

/-- What the log calls the palette. -/
def name : Palette → String
  | regular => "Regular"
  | metaverse => "Metaverse"

/-- The palette after a toggle, and the hint that names the palette of the next one. -/
def toggle (p : Palette) : Palette × String := (p.other, p.other.other.label)

theorem other_other (p : Palette) : p.other.other = p := by cases p <;> rfl

/-! ### Brackets -/

/-- The brackets in ascending order, each with its inclusive upper bound. -/
def brackets : Palette → List (Nat × Swatch)
  | regular =>
    [(100, ⟨"#aaffaa", ⟨0xaa, 0xff, 0xaa⟩⟩), (150, ⟨"goldenrod", ⟨0xda, 0xa5, 0x20⟩⟩)]
  | metaverse =>
    [(9, ⟨"#32b08c", ⟨0x32, 0xb0, 0x8c⟩⟩), (20, ⟨"#ffb94a", ⟨0xff, 0xb9, 0x4a⟩⟩),
     (50, ⟨"#f95f53", ⟨0xf9, 0x5f, 0x53⟩⟩), (70, ⟨"#bf3d5e", ⟨0xbf, 0x3d, 0x5e⟩⟩)]

/-- The color above the last bracket. -/
def top : Palette → Swatch
  | regular => ⟨"#ffaaaa", ⟨0xff, 0xaa, 0xaa⟩⟩
  | metaverse => ⟨"#dc4e58", ⟨0xdc, 0x4e, 0x58⟩⟩

/-- The color of a score. -/
def swatch (p : Palette) (score : Datum) : Swatch :=
  match p.brackets.find? fun b => score.le (.finite false b.1 0) with
  | some b => b.2
  | none => p.top

end Palette

end ShaperDash
