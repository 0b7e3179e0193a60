import ShaperDash.Number.Decimal

/-!
# Short labels for large numbers

A number above a thousand is shown in thousands, millions, billions or trillions with two decimals;
any other number is shown in full.  A number that is exactly a unit is not yet above it.
-/

namespace ShaperDash

/-- The units in descending order, each with its letter. -/
def scaleUnits : List (Nat × Char) :=
  [(1000000000000, 'T'), (1000000000, 'G'), (1000000, 'M'), (1000, 'K')]

/-- `n / unit`, rounded to hundredths in 64-bit arithmetic; halves go up. -/
def hundredths (n : Datum) (unit : Nat) : Datum :=
  let quotient := binary64.div n (binary64.ofNat unit)
  let hundred := binary64.ofNat 100
  binary64.div (binary64.mul quotient hundred).roundToInteger hundred

/-- The unit that a number is shown in. -/
def scaleUnit? (n : Datum) : Option (Nat × Char) :=
  scaleUnits.find? fun u => (binary64.ofNat u.1).lt n

/-- The short label of a number. -/
def scaleNumber (n : Datum) : String :=
  match scaleUnit? n with
  | some (unit, letter) => ((hundredths n unit).fixed 2).push letter
  | none => n.plain

/-- The short label of a counter. -/
def scaleCount (n : Nat) : String := scaleNumber (binary64.ofNat n)

end ShaperDash
