import ShaperDash.Dashboard
import ShaperDash.Pane.Theme

/-!
# The status bar

One line without a border: the keys and what they do, and where the status comes from.
-/

namespace ShaperDash.StatusBar

/-- A key and what it does. -/
def key (key description : String) : List Span :=
  [⟨" " ++ key ++ " ", .boldFg Theme.alert⟩, ⟨description ++ " ", .ofFg Theme.hint⟩]

/-- Where the status comes from. -/
def source (d : Dashboard) : String :=
  match d.statusSource with
  | some path => "status " ++ path
  | none => "status polling off"

/-- The line of the status bar. -/
def spans (d : Dashboard) : List Span :=
  key "q" "Quit" ++ key "c" d.paletteLabel ++
    [⟨" | ", .ofFg Theme.footDivider⟩, ⟨source d, .ofFg Theme.faint⟩]

/-- The status bar. -/
def draw (d : Dashboard) (r : Region) : Picture :=
  fill r (.ofBg Theme.footing) ++ paragraphLine r (spans d)

end ShaperDash.StatusBar
