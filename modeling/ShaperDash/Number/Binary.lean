import ShaperDash.Number.Rounding

/-!
# Binary floating point, exactly

A `Datum` is what a binary floating-point word stands for: a number `±significand * 2^exponent`,
an infinity, or no number at all.  A `Format` says how many bits a significand has and how far the
exponents reach; `Format.round` takes an exact quotient to the nearest datum of the format, a half
going to the even significand.  Every operation below is the exact operation followed by one such
rounding, so that a law of arithmetic becomes a law of `Format.round`.
-/

namespace ShaperDash

/-- What a floating-point word stands for. -/
inductive Datum
  | nan
  | infinite (negative : Bool)
  | finite (negative : Bool) (significand : Nat) (exponent : Int)
  deriving DecidableEq, Repr

/-- A binary interchange format: the bits of a significand, and the least and the greatest
exponent of the last place. -/
structure Format where
  precision : Nat
  minExponent : Int
  maxExponent : Int
  deriving DecidableEq, Repr

/-- The 64-bit format. -/
def binary64 : Format := ⟨53, -1074, 971⟩

/-- The 32-bit format. -/
def binary32 : Format := ⟨24, -149, 104⟩

namespace Format

variable (f : Format)

/-! ### Rounding to a format -/

/-- The exponent of the greatest power of two that is at most `num / den`. -/
def leadingExponent (num den : Nat) : Int :=
  let k : Int := (num.log2 : Int) - (den.log2 : Int)
  if den * Nat.pow 2 k.toNat ≤ num * Nat.pow 2 (-k).toNat then k else k - 1

/-- The exponent of the last place that `num / den` has in the format. -/
def lastPlace (num den : Nat) : Int :=
  if num = 0 then f.minExponent
  else max f.minExponent (leadingExponent num den - ((f.precision : Int) - 1))

/-- The datum of the format nearest to `±num / den`, ties to the even significand. -/
def round (negative : Bool) (num den : Nat) : Datum :=
  let e := f.lastPlace num den
  let m := roundDiv .even (num * Nat.pow 2 (-e).toNat) (den * Nat.pow 2 e.toNat)
  let carried := m = Nat.pow 2 f.precision
  let m' := if carried then Nat.pow 2 (f.precision - 1) else m
  let e' := if carried then e + 1 else e
  if f.maxExponent < e' then .infinite negative else .finite negative m' e'

/-- The datum nearest to `±(num / den) * 2 ^ e`. -/
def roundScaled (negative : Bool) (num den : Nat) (e : Int) : Datum :=
  f.round negative (num * Nat.pow 2 e.toNat) (den * Nat.pow 2 (-e).toNat)

/-- The datum nearest to a natural number. -/
def ofNat (n : Nat) : Datum := f.round false n 1

/-- The datum nearest to an integer. -/
def ofInt (i : Int) : Datum := f.round (i < 0) i.natAbs 1

/-- The datum of the format nearest to one of another format. -/
def convert : Datum → Datum
  | .finite s m e => f.roundScaled s m 1 e
  | d => d

/-! ### Arithmetic -/

def mul : Datum → Datum → Datum
  | .nan, _ => .nan
  | _, .nan => .nan
  | .infinite s, .infinite t => .infinite (s != t)
  | .infinite s, .finite t n _ => if n = 0 then .nan else .infinite (s != t)
  | .finite s m _, .infinite t => if m = 0 then .nan else .infinite (s != t)
  | .finite s m e, .finite t n d => f.roundScaled (s != t) (m * n) 1 (e + d)

def div : Datum → Datum → Datum
  | .nan, _ => .nan
  | _, .nan => .nan
  | .infinite _, .infinite _ => .nan
  | .infinite s, .finite t _ _ => .infinite (s != t)
  | .finite s _ _, .infinite t => .finite (s != t) 0 f.minExponent
  | .finite s m e, .finite t n d =>
    if n = 0 then (if m = 0 then .nan else .infinite (s != t))
    else f.roundScaled (s != t) m n (e - d)

end Format

namespace Datum

/-- The integer `±n`. -/
def signed (negative : Bool) (n : Nat) : Int := if negative then -(n : Int) else n

/-- The two integers that compare as `±m * 2 ^ e` and `±n * 2 ^ d` do. -/
def aligned (s : Bool) (m : Nat) (e : Int) (t : Bool) (n : Nat) (d : Int) : Int × Int :=
  (signed s (m * Nat.pow 2 (e - d).toNat), signed t (n * Nat.pow 2 (d - e).toNat))

end Datum

/-- The sum of two data; opposite numbers give a zero, negative only when both were. -/
def Format.add (f : Format) : Datum → Datum → Datum
  | .nan, _ => .nan
  | _, .nan => .nan
  | .infinite s, .infinite t => if s = t then .infinite s else .nan
  | .infinite s, .finite .. => .infinite s
  | .finite .., .infinite t => .infinite t
  | .finite s m e, .finite t n d =>
    let (a, b) := Datum.aligned s m e t n d
    let sum := a + b
    let negative := if sum = 0 then s && t else decide (sum < 0)
    f.roundScaled negative sum.natAbs 1 (min e d)

namespace Datum

/-! ### Comparison -/

/-- `a ≤ b`; never true of something that is no number. -/
def le : Datum → Datum → Bool
  | .nan, _ => false
  | _, .nan => false
  | .infinite s, .infinite t => s || !t
  | .infinite s, .finite .. => s
  | .finite .., .infinite t => !t
  | .finite s m e, .finite t n d =>
    let (a, b) := aligned s m e t n d
    a ≤ b

/-- `a < b`; never true of something that is no number. -/
def lt : Datum → Datum → Bool
  | .nan, _ => false
  | _, .nan => false
  | .infinite s, .infinite t => s && !t
  | .infinite s, .finite .. => s
  | .finite .., .infinite t => !t
  | .finite s m e, .finite t n d =>
    let (a, b) := aligned s m e t n d
    a < b

/-- `d`, brought into `low … high` if it is a number outside. -/
def clamp (d low high : Datum) : Datum :=
  let d := if d.lt low then low else d
  if high.lt d then high else d

/-! ### Integers -/

/-- The nearest integer, halves away from zero. -/
def roundToInteger : Datum → Datum
  | .finite s m e =>
    if 0 ≤ e then .finite s m e else .finite s (roundDiv .up m (Nat.pow 2 (-e).toNat)) 0
  | d => d

/-- The integer part, brought into `0 … limit`; zero for something that is no number. -/
def truncate (limit : Nat) : Datum → Nat
  | .nan => 0
  | .infinite s => if s then 0 else limit
  | .finite s m e => if s then 0 else min limit (m * Nat.pow 2 e.toNat / Nat.pow 2 (-e).toNat)

end Datum

/-! ### Words -/

namespace Format

variable (f : Format)

/-- The code of the positive infinity; everything above it is no number. -/
def infinityCode : Nat := (f.maxExponent - f.minExponent + 2).toNat * Nat.pow 2 (f.precision - 1)

/-- The weight of the sign bit. -/
def signWeight : Nat := (f.maxExponent - f.minExponent + 3).toNat * Nat.pow 2 (f.precision - 1)

/-- The datum that a word of the format stands for. -/
def decode (word : Nat) : Datum :=
  let negative := decide (f.signWeight ≤ word)
  let code := word % f.signWeight
  let field := code / Nat.pow 2 (f.precision - 1)
  let fraction := code % Nat.pow 2 (f.precision - 1)
  if f.infinityCode < code then .nan
  else if code = f.infinityCode then .infinite negative
  else if field = 0 then .finite negative fraction f.minExponent
  else .finite negative (Nat.pow 2 (f.precision - 1) + fraction) (f.minExponent + (field - 1 : Nat))

/-- The word of a datum of the format; one quiet word serves for everything that is no number. -/
def encode : Datum → Nat
  | .nan => f.infinityCode + Nat.pow 2 (f.precision - 2)
  | .infinite s => (if s then f.signWeight else 0) + f.infinityCode
  | .finite s m e =>
    (if s then f.signWeight else 0) + ((e - f.minExponent).toNat * Nat.pow 2 (f.precision - 1) + m)

end Format

end ShaperDash
