import ShaperDash.Number.Decimal

/-!
# The session clock

A duration in whole seconds, written as hours, minutes and seconds.
-/

namespace ShaperDash

/-- The whole seconds of a duration in nanoseconds. -/
def wholeSeconds (nanoseconds : Nat) : Nat := nanoseconds / 1000000000

/-- `H:MM:SS`. -/
def formatElapsed (seconds : Nat) : String :=
  String.ofList (digitsOf (seconds / 3600) ++
    ':' :: (zeroPadded 2 (seconds % 3600 / 60) ++ ':' :: zeroPadded 2 (seconds % 60)))

end ShaperDash
