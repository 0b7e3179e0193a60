/-!
# Rounding quotients

`roundDiv tie num den` is the natural number nearest to `num / den`; when the quotient lies
halfway between two naturals, `tie` says which of the two it becomes.
-/

namespace ShaperDash

/-- Where a value goes that lies exactly halfway between its two neighbours. -/
inductive Tie
  | up
  | even
  deriving DecidableEq, Repr

/-- The natural number nearest to `num / den`. -/
def roundDiv (tie : Tie) (num den : Nat) : Nat :=
  let q := num / den
  let r := num % den
  if 2 * r < den then q
  else if den < 2 * r then q + 1
  else
    match tie with
    | .up => q + 1
    | .even => q + q % 2

end ShaperDash
