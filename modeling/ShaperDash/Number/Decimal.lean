import ShaperDash.Number.Binary

/-!
# Decimal numerals

Three spellings of a datum in decimal.  `Format.shortest` finds the numeral with the fewest digits
that still rounds to the datum; `Decimal.positional` writes it without an exponent and
`Decimal.marked` with a point or an exponent always in sight.  `Datum.fixed` rounds the exact value
to a given number of places instead.
-/

namespace ShaperDash

/-- The decimal number `coefficient * 10 ^ exponent`. -/
structure Decimal where
  coefficient : Nat
  exponent : Int
  deriving DecidableEq, Repr

/-! ### The shortest numeral that reads back -/

/-- The numbers between `lower / den` and `upper / den` that round to `value / den`; the ends belong
to them when `closed` holds. -/
structure RoundingInterval where
  lower : Nat
  value : Nat
  upper : Nat
  den : Nat
  closed : Bool
  deriving Repr

namespace RoundingInterval

variable (i : RoundingInterval)

/-- `c * 10 ^ k` lies in the interval. -/
def holds (c : Nat) (k : Int) : Bool :=
  let x := c * Nat.pow 10 k.toNat * i.den
  let low := i.lower * Nat.pow 10 (-k).toNat
  let high := i.upper * Nat.pow 10 (-k).toNat
  if i.closed then low ≤ x && x ≤ high else low < x && x < high

/-- The multiple of `10 ^ k` in the interval that is nearest to the value, if there is any. -/
def onGrid (tie : Tie) (k : Int) : Option Decimal :=
  let num := i.value * Nat.pow 10 (-k).toNat
  let den := i.den * Nat.pow 10 k.toNat
  let below := num / den
  let near := roundDiv tie num den
  let far := if near = below then below + 1 else below
  if i.holds near k then some ⟨near, k⟩
  else if i.holds far k then some ⟨far, k⟩
  else none

/-- The first hit on the grids `10 ^ k`, `10 ^ (k - 1)`, …; after `steps` grids without one, the
nearest point of the grid reached. -/
def search (tie : Tie) : Nat → Int → Decimal
  | 0, k => ⟨roundDiv tie (i.value * Nat.pow 10 (-k).toNat) (i.den * Nat.pow 10 k.toNat), k⟩
  | steps + 1, k => (i.onGrid tie k).getD (search tie steps (k - 1))

end RoundingInterval

/-- The number of decimal digits of `n`. -/
def digitCount (n : Nat) : Nat := (Nat.toDigits 10 n).length

/-- The exponent of the greatest power of ten that is at most `num / den`. -/
def leadingPlace (num den : Nat) : Int :=
  if den ≤ num then (digitCount (num / den) : Int) - 1
  else -(digitCount ((den - 1) / num) : Int)

namespace Format

variable (f : Format)

/-- The numbers that round to `significand * 2 ^ exponent`; below a power of two the neighbours lie
twice as close. -/
def roundingInterval (significand : Nat) (exponent : Int) : RoundingInterval :=
  let close := significand = Nat.pow 2 (f.precision - 1) ∧ f.minExponent < exponent
  let scale := Nat.pow 2 (exponent - 2).toNat
  { lower := (4 * significand - if close then 1 else 2) * scale
    value := 4 * significand * scale
    upper := (4 * significand + 2) * scale
    den := Nat.pow 2 (2 - exponent).toNat
    closed := significand % 2 = 0 }

/-- The decimal number with the fewest digits that rounds to `significand * 2 ^ exponent`, and of
those the nearest to it. -/
def shortest (tie : Tie) (significand : Nat) (exponent : Int) : Decimal :=
  if significand = 0 then ⟨0, 0⟩
  else
    let i := f.roundingInterval significand exponent
    i.search tie f.precision (leadingPlace i.value i.den)

end Format

/-! ### Spelling -/

/-- The digits of `n`, the most significant first. -/
def digitsOf (n : Nat) : List Char := Nat.toDigits 10 n

/-- `n` filled up with zeros on the left to `width` digits. -/
def zeroPadded (width n : Nat) : List Char :=
  List.replicate (width - digitCount n) '0' ++ digitsOf n

namespace Decimal

/-- The digits of the coefficient without the zeros at its end. -/
def significant (d : Decimal) : List Char :=
  ((digitsOf d.coefficient).reverse.dropWhile (· == '0')).reverse

/-- The number of digits before the point, or less than zero the number of zeros behind it. -/
def pointPlace (d : Decimal) : Int := (digitCount d.coefficient : Int) + d.exponent

/-- The numeral without an exponent, and without a point if it is whole. -/
def positional (d : Decimal) : List Char :=
  if d.coefficient = 0 then ['0']
  else
    let ds := d.significant
    let point := d.pointPlace
    if (ds.length : Int) ≤ point then
      ds ++ List.replicate (point.toNat - ds.length) '0'
    else if 0 < point then
      ds.take point.toNat ++ '.' :: ds.drop point.toNat
    else
      '0' :: '.' :: (List.replicate (-point).toNat '0' ++ ds)

/-- The numeral with a point from `0.00001` up to sixteen whole digits, and in scientific notation
outside. -/
def marked (d : Decimal) : List Char :=
  if d.coefficient = 0 then ['0', '.', '0']
  else
    let ds := d.significant
    let point := d.pointPlace
    if -5 < point ∧ point ≤ 16 then
      if (ds.length : Int) ≤ point then d.positional ++ ['.', '0'] else d.positional
    else
      let mantissa :=
        match ds with
        | [] => []
        | [c] => [c]
        | c :: cs => c :: '.' :: cs
      let power := point - 1
      mantissa ++ 'e' :: (if power < 0 then '-' else '+') :: digitsOf power.natAbs

end Decimal

namespace Datum

/-- The sign of a negative number, zero included. -/
def sign (negative : Bool) : List Char := if negative then ['-'] else []

/-- The shortest numeral of a 64-bit datum that reads back, written without an exponent. -/
def plain : Datum → String
  | .nan => "NaN"
  | .infinite s => String.ofList (sign s ++ "inf".toList)
  | .finite s m e => String.ofList (sign s ++ (binary64.shortest .up m e).positional)

/-- The shortest numeral of a 64-bit datum that reads back, visibly no integer. -/
def marked : Datum → String
  | .nan => "NaN"
  | .infinite s => String.ofList (sign s ++ "inf".toList)
  | .finite s m e => String.ofList (sign s ++ (binary64.shortest .even m e).marked)

/-- The hundredths, thousandths, … of `places` decimals in `significand * 2 ^ exponent`, rounded to
the nearest, ties to the even one. -/
def fixedUnits (places significand : Nat) (exponent : Int) : Nat :=
  roundDiv .even (significand * Nat.pow 2 exponent.toNat * Nat.pow 10 places)
    (Nat.pow 2 (-exponent).toNat)

/-- The exact value rounded to `places` decimals, at least one. -/
def fixed (places : Nat) : Datum → String
  | .nan => "NaN"
  | .infinite s => String.ofList (sign s ++ "inf".toList)
  | .finite s m e =>
    let units := fixedUnits places m e
    String.ofList (sign s ++ digitsOf (units / Nat.pow 10 places) ++
      '.' :: zeroPadded places (units % Nat.pow 10 places))

end Datum

end ShaperDash
