import ShaperDash.Dashboard
import ShaperDash.Pane.Theme

/-!
# The throughput pane

Two sparklines, one for each direction: every column shows a rate of the history as a bar whose
height is to the greatest rate as the rate itself is.
-/

namespace ShaperDash

/-- What tells the two sparklines apart. -/
structure SparklineStyle where
  arrow : String
  name : String
  bar : Rgb
  value : Rgb
  deriving DecidableEq, Repr

namespace Sparkline

def download : SparklineStyle := ⟨" \u25BC ", "Download ", Theme.downBar, Theme.down⟩

def upload : SparklineStyle := ⟨" \u25B2 ", "Upload ", Theme.upBar, Theme.up⟩

/-- The greatest rate, at least one. -/
def peak (rates : List UInt64) : UInt64 := rates.foldl max 1

/-- The height of a bar in eighths of a cell, in 64-bit arithmetic. -/
def eighths (rate peak : UInt64) (rows : Nat) : Nat := (rate * UInt64.ofNat rows * 8 / peak).toNat

/-- The symbol of a cell that is filled by so many eighths from below. -/
def level (n : Nat) : Char :=
  match n with
  | 0 => ' '
  | 1 => '\u2581'
  | 2 => '\u2582'
  | 3 => '\u2583'
  | 4 => '\u2584'
  | 5 => '\u2585'
  | 6 => '\u2586'
  | 7 => '\u2587'
  | _ => '\u2588'

/-- A bar of so many eighths in a column, from the bottom up. -/
def bar (color : Rgb) (r : Region) (eighths : Nat) : Picture :=
  (List.range r.height).map fun k =>
    ⟨r.x, r.y + (r.height - 1 - k), .put [level (eighths - 8 * k)] (.ofFg color)⟩

/-- The rates that are shown, from the left. -/
def shown (rates : List UInt64) (columns : Nat) : List UInt64 := rates.take columns

/-- The bars of a rectangle, one in each column. -/
def bars (style : SparklineStyle) (rates : List UInt64) (r : Region) : Picture :=
  (shown rates r.width).zipIdx.flatMap fun (rate, i) =>
    bar style.bar (r.column i) (eighths rate (peak rates) r.height)

/-- The title: the direction, the rate now and the greatest rate. -/
def title (style : SparklineStyle) (rates : List UInt64) (now : UInt64) : List Span :=
  [⟨style.arrow, .boldFg style.bar⟩,
   ⟨style.name, .ofFg Theme.direction⟩,
   ⟨scaleCount now.toNat ++ "bps", .boldFg style.value⟩,
   ⟨"  peak " ++ scaleCount (peak rates).toNat ++ "bps ", .ofFg Theme.faint⟩]

/-- A sparkline in its block. -/
def draw (style : SparklineStyle) (rates : List UInt64) (now : UInt64) (r : Region) : Picture :=
  Block.draw Theme.block (title style rates now) r ++ bars style rates r.inner

end Sparkline

namespace ThroughputPane

/-- The throughput pane. -/
def draw (d : Dashboard) (r : Region) : Picture :=
  Sparkline.draw Sparkline.download d.history.download d.rates.down r.upperHalf ++
    Sparkline.draw Sparkline.upload d.history.upload d.rates.up r.lowerHalf

end ThroughputPane

end ShaperDash
