import ShaperDash.Dashboard
import ShaperDash.Pane.Theme

/-!
# The system pane

A line for the memory and a line for each processor, each with a gauge: a bar that is filled in
proportion to a percentage, and the percentage itself.
-/

namespace ShaperDash

/-- A text filled up with blanks on the right. -/
def padRight (width : Nat) (s : String) : String :=
  s ++ String.ofList (List.replicate (width - s.length) ' ')

/-- A text filled up with blanks on the left. -/
def padLeft (width : Nat) (s : String) : String :=
  String.ofList (List.replicate (width - s.length) ' ') ++ s

namespace Gauge

/-- A percentage, brought between 0 and 100. -/
def limited (percent : Datum) : Datum :=
  percent.clamp (.finite false 0 binary64.minExponent) (binary64.ofNat 100)

/-- The number of cells that are filled of `width`, rounded in 64-bit arithmetic. -/
def filled (percent : Datum) (width : Nat) : Nat :=
  let part := binary64.div percent (binary64.ofNat 100)
  (binary64.mul part (binary64.ofNat width)).roundToInteger.truncate (UInt16.size - 1)

/-- A run of one character, if it is not empty. -/
def run (c : Char) (n : Nat) (color : Rgb) : List Span :=
  if n = 0 then [] else [⟨String.ofList (List.replicate n c), .ofFg color⟩]

/-- The bar and the percentage. -/
def spans (percent : Datum) (width : Nat) (palette : Palette) : List Span :=
  let percent := limited percent
  let color := (palette.swatch percent).rgb
  let full := filled percent width
  run '\u2588' full color ++ run '\u2591' (width - full) Theme.emptyBar ++
    [⟨" " ++ padLeft 5 (percent.fixed 1) ++ "%", .ofFg color⟩]

end Gauge

namespace SystemPane

/-- The number of cells of a gauge in a pane. -/
def gaugeWidth (width : Nat) : Nat := min 40 (width - 20)

/-- The line of the memory. -/
def memoryLine (s : SystemSample) (width : Nat) (palette : Palette) : List Span :=
  ⟨"  RAM  ", .boldFg Theme.caption⟩ :: Gauge.spans s.ramPercent width palette ++
    [⟨"  " ++ scaleCount s.ramUsed.toNat ++ "B / " ++ scaleCount s.ramTotal.toNat ++ "B",
      .ofFg Theme.memory⟩]

/-- The line of the processor with the number `i`. -/
def processorLine (usage : Single) (i width : Nat) (palette : Palette) : List Span :=
  ⟨"  " ++ padRight 4 ("#" ++ toString i) ++ " ", .ofFg Theme.hint⟩ ::
    Gauge.spans usage.value width palette

/-- All lines. -/
def lines (s : SystemSample) (width : Nat) (palette : Palette) : List (List Span) :=
  memoryLine s width palette ::
    s.cpu.zipIdx.map fun (usage, i) => processorLine usage i width palette

/-- The title. -/
def title (s : SystemSample) : List Span :=
  [⟨" CPU / RAM  " ++ toString s.cpu.length ++ " ", .boldFg Theme.heading⟩]

/-- The system pane. -/
def draw (d : Dashboard) (r : Region) : Picture :=
  let shown := (lines d.system (gaugeWidth r.width) d.palette).take r.inner.height
  Block.draw Theme.block (title d.system) r ++
    shown.zipIdx.flatMap fun (line, i) => paragraphLine (r.inner.row i) line

end SystemPane

end ShaperDash
