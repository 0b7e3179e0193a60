import ShaperDash.Screen.Picture
import ShaperDash.Session
import ShaperDash.Text.Extent

/-!
# The terminal

How a screen is written to a terminal, `frame`, and which keys the characters that a terminal sends
stand for, `keyPresses`.
-/

namespace ShaperDash.Terminal

/-! ### Screens -/

/-- A control sequence. -/
def control (s : String) : String := "\x1b[" ++ s

/-- The sequence that chooses a color; `layer` is 3 for the text and 4 for its background. -/
def colorSequence (layer : Nat) : Color → String
  | .reset => control (toString layer ++ "9m")
  | .rgb c =>
    control (toString layer ++ "8;2;" ++ toString c.red ++ ";" ++ toString c.green ++ ";" ++
      toString c.blue ++ "m")

/-- The sequences for the look of a cell. -/
def lookSequence (c : Cell) : String :=
  control (if c.bold then "1m" else "22m") ++ colorSequence 3 c.fg ++ colorSequence 4 c.bg

/-- The cells of a row as they are written; the cell that a wide symbol covers is left out. -/
def rowText : Nat → List Cell → String
  | _, [] => ""
  | covered + 1, _ :: cells => rowText covered cells
  | 0, c :: cells =>
    lookSequence c ++ String.ofList c.symbol ++ rowText (textColumns c.symbol - 1) cells

/-- The sequence that moves to the beginning of a row, counted from zero. -/
def moveTo (row : Nat) : String := control (toString (row + 1) ++ ";1H")

/-- A picture as it is written to the terminal. -/
def frame (p : Picture) (width height : Nat) : String :=
  String.join ((p.screen width height).zipIdx.map fun (row, y) => moveTo y ++ rowText 0 row) ++
    control "0m"

/-- Turns to a screen of its own. -/
def enter : String := control "?1049h"

/-- Turns back to the screen from before. -/
def leave : String := control "?1049l"

/-! ### Keys -/

/-- The key that a single character stands for; control characters are letters with the control key
held down, save those that have a key of their own. -/
def keyPress (c : Char) : KeyPress :=
  if c = '\n' ∨ c = '\x0d' then ⟨.named "Enter", false⟩
  else if c = '\t' then ⟨.named "Tab", false⟩
  else if c = '\x08' ∨ c = '\x7f' then ⟨.named "Backspace", false⟩
  else if c = '\x1b' then ⟨.named "Esc", false⟩
  else if c.toNat = 0 then ⟨.char ' ', true⟩
  else if c.toNat < 27 then ⟨.char (Char.ofNat (c.toNat + 96)), true⟩
  else ⟨.char c, false⟩

/-- The key that the end of a control sequence names. -/
def namedKey (c : Char) : KeyPress :=
  let name :=
    match c with
    | 'A' => "Up"
    | 'B' => "Down"
    | 'C' => "Right"
    | 'D' => "Left"
    | 'F' => "End"
    | 'H' => "Home"
    | 'P' => "F1"
    | '~' => "Delete"
    | _ => "Null"
  ⟨.named name, false⟩

/-- The keys that stand behind a text that a terminal sends. -/
def keyPresses : List Char → List KeyPress
  | [] => []
  | '\x1b' :: '[' :: '3' :: '~' :: cs => namedKey '~' :: keyPresses cs
  | '\x1b' :: '[' :: c :: cs => namedKey c :: keyPresses cs
  | '\x1b' :: 'O' :: c :: cs => namedKey c :: keyPresses cs
  | '\x1b' :: c :: cs => keyPress c :: keyPresses cs
  | c :: cs => keyPress c :: keyPresses cs

end ShaperDash.Terminal
