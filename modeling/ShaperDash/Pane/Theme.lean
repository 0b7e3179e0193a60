import ShaperDash.Screen.Block

/-!
# Colors of the dashboard

The fixed colors.  Those that tell a score come from the palette instead.
-/

namespace ShaperDash.Theme

def edge : Rgb := ⟨30, 50, 85⟩
def backdrop : Rgb := ⟨8, 12, 24⟩
def footing : Rgb := ⟨14, 20, 36⟩
def heading : Rgb := ⟨160, 180, 220⟩
def caption : Rgb := ⟨130, 150, 190⟩
def brand : Rgb := ⟨80, 200, 255⟩
def divider : Rgb := ⟨35, 50, 75⟩
def footDivider : Rgb := ⟨50, 60, 80⟩
def name : Rgb := ⟨90, 150, 210⟩
def counts : Rgb := ⟨80, 200, 120⟩
def faint : Rgb := ⟨85, 100, 130⟩
def alert : Rgb := ⟨255, 200, 80⟩
def sessionClock : Rgb := ⟨110, 120, 150⟩
def wallClock : Rgb := ⟨85, 95, 120⟩
def direction : Rgb := ⟨120, 150, 200⟩
def downBar : Rgb := ⟨50, 160, 255⟩
def down : Rgb := ⟨80, 210, 255⟩
def upBar : Rgb := ⟨180, 100, 255⟩
def up : Rgb := ⟨210, 160, 255⟩
def memory : Rgb := ⟨100, 120, 160⟩
def hint : Rgb := ⟨95, 108, 135⟩
def emptyBar : Rgb := ⟨25, 35, 55⟩

/-- The look of every block. -/
def block : BlockStyle := ⟨edge, backdrop⟩

end ShaperDash.Theme
