import ShaperDash.Json.Scan

/-!
# Numbers

`scanNumber` reads the spelling of a number, a `Numeral`; `Numeral.value` says what it stands for.
A numeral without fraction and exponent is an integer as long as it fits 64 bits.  Everything else
is a floating-point number: the digits that fit 64 bits form a significand, which one division or
one multiplication brings to its power of ten.
-/

namespace ShaperDash.Json

/-- The spelling of a number, digits as numbers. -/
structure Numeral where
  negative : Bool
  whole : List Nat
  /-- The digits behind the point; none if there is no point. -/
  fraction : List Nat
  /-- The sign and the digits of the exponent. -/
  exponent : Option (Bool × List Nat)
  deriving DecidableEq, Repr

/-! ### Spelling -/

/-- A decimal digit. -/
def isDigit (c : Char) : Bool := '0' ≤ c && c ≤ '9'

/-- The digits at the start of a text. -/
def leadingDigits (cs : List Char) : List Nat :=
  (cs.takeWhile isDigit).map fun c => c.toNat - '0'.toNat

/-- The text behind the digits at its start. -/
def pastDigits (cs : List Char) : List Char := cs.dropWhile isDigit

theorem pastDigits_length_le (cs : List Char) : (pastDigits cs).length ≤ cs.length :=
  (List.dropWhile_sublist isDigit).length_le

/-- The fault of a text that does not go on with a digit: `atEnd` if it is over. -/
def digitMissing {α : Type} (atEnd : Cause) (rest : List Char) : Except Failure α :=
  failPast rest (if rest.isEmpty then atEnd else .invalidNumber)

/-- Reads the digits before the point; a zero stands alone. -/
def scanWhole (atEnd : Cause) : List Char → Except Failure (List Nat × List Char)
  | [] => digitMissing atEnd []
  | c :: rest =>
    if c = '0' then
      if (leadingDigits rest).isEmpty then .ok ([0], rest) else failPast rest .invalidNumber
    else if isDigit c then .ok (leadingDigits (c :: rest), pastDigits rest)
    else digitMissing atEnd (c :: rest)

/-- Reads at least one digit. -/
def scanDigits (atEnd : Cause) (cs : List Char) : Except Failure (List Nat × List Char) :=
  if (leadingDigits cs).isEmpty then digitMissing atEnd cs
  else .ok (leadingDigits cs, pastDigits cs)

/-- Reads the point and the digits behind it, if there is a point. -/
def scanFraction (atEnd : Cause) : List Char → Except Failure (List Nat × List Char)
  | [] => .ok ([], [])
  | c :: rest => if c = '.' then scanDigits atEnd rest else .ok ([], c :: rest)

/-- Reads the sign of an exponent. -/
def scanSign : List Char → Bool × List Char
  | [] => (false, [])
  | c :: rest =>
    if c = '-' then (true, rest) else if c = '+' then (false, rest) else (false, c :: rest)

/-- Reads the exponent, if there is one. -/
def scanExponent (atEnd : Cause) :
    List Char → Except Failure (Option (Bool × List Nat) × List Char)
  | [] => .ok (none, [])
  | c :: rest =>
    if c = 'e' ∨ c = 'E' then
      let (negative, rest) := scanSign rest
      (scanDigits atEnd rest).map fun (digits, rest) => (some (negative, digits), rest)
    else .ok (none, c :: rest)

/-- Reads a number without its sign. -/
def scanUnsigned (atEnd : Cause) (negative : Bool) (cs : List Char) :
    Except Failure (Numeral × List Char) := do
  let (whole, rest) ← scanWhole atEnd cs
  let (fraction, rest) ← scanFraction atEnd rest
  let (exponent, rest) ← scanExponent atEnd rest
  return (⟨negative, whole, fraction, exponent⟩, rest)

/-- Reads a number; `atEnd` is the fault of a number that the end of the text cuts off. -/
def scanNumber (atEnd : Cause) : List Char → Except Failure (Numeral × List Char)
  | [] => digitMissing atEnd []
  | c :: rest =>
    if c = '-' then scanUnsigned atEnd true rest else scanUnsigned atEnd false (c :: rest)

theorem scanWhole_length {e : Cause} {cs rest : List Char} {ds : List Nat}
    (h : scanWhole e cs = .ok (ds, rest)) : rest.length < cs.length := by
  unfold scanWhole at h
  split at h
  · simp [digitMissing, failPast] at h
  · split at h
    · split at h
      · simp at h; simp [h]
      · simp [failPast] at h
    · split at h
      · next r _ _ =>
        have := pastDigits_length_le r
        simp at h
        simp only [List.length_cons, ← h.2]
        omega
      · simp [digitMissing, failPast] at h

theorem scanDigits_length {e : Cause} {cs rest : List Char} {ds : List Nat}
    (h : scanDigits e cs = .ok (ds, rest)) : rest.length ≤ cs.length := by
  unfold scanDigits at h
  split at h
  · simp [digitMissing, failPast] at h
  · simp at h
    rw [← h.2]
    exact pastDigits_length_le cs

theorem scanFraction_length {e : Cause} {cs rest : List Char} {ds : List Nat}
    (h : scanFraction e cs = .ok (ds, rest)) : rest.length ≤ cs.length := by
  unfold scanFraction at h
  split at h
  · simp at h; simp [h]
  · split at h
    · have := scanDigits_length h; simp; omega
    · simp at h; simp [← h.2]

theorem scanSign_length (cs : List Char) : (scanSign cs).2.length ≤ cs.length := by
  unfold scanSign
  split
  · simp
  · split
    · simp
    · split <;> simp

theorem scanExponent_length {e : Cause} {cs rest : List Char} {x : Option (Bool × List Nat)}
    (h : scanExponent e cs = .ok (x, rest)) : rest.length ≤ cs.length := by
  unfold scanExponent at h
  split at h
  · simp at h; simp [h]
  · next c r =>
    split at h
    · have hs := scanSign_length r
      simp only [Except.map] at h
      split at h
      · simp at h
      · next v hv =>
        have := scanDigits_length (show _ = Except.ok (v.1, v.2) from hv)
        simp at h
        simp only [List.length_cons, ← h.2]
        omega
    · simp at h; simp [← h.2]

theorem scanUnsigned_length {e : Cause} {b : Bool} {cs rest : List Char} {n : Numeral}
    (h : scanUnsigned e b cs = .ok (n, rest)) : rest.length < cs.length := by
  simp only [scanUnsigned, bind, Except.bind, pure, Except.pure] at h
  split at h
  · simp at h
  · next u hu =>
    have h1 := scanWhole_length (show _ = Except.ok (u.1, u.2) from hu)
    split at h
    · simp at h
    · next v hv =>
      have h2 := scanFraction_length (show _ = Except.ok (v.1, v.2) from hv)
      split at h
      · simp at h
      · next w hw =>
        have h3 := scanExponent_length (show _ = Except.ok (w.1, w.2) from hw)
        simp at h
        rw [← h.2]
        omega

theorem scanNumber_length {e : Cause} {cs rest : List Char} {n : Numeral}
    (h : scanNumber e cs = .ok (n, rest)) : rest.length < cs.length := by
  unfold scanNumber at h
  split at h
  · simp [digitMissing, failPast] at h
  · split at h
    · have := scanUnsigned_length h; simp; omega
    · exact scanUnsigned_length h

/-! ### Value -/

/-- What a numeral stands for. -/
inductive Number
  | integer (i : Int)
  | floating (d : Datum)
  deriving DecidableEq, Repr

/-- Appends digits to `n` as long as the result is at most `limit`; the digits left over come
second. -/
def absorb (limit : Nat) : Nat → List Nat → Nat × List Nat
  | n, [] => (n, [])
  | n, d :: ds => if n * 10 + d ≤ limit then absorb limit (n * 10 + d) ds else (n, d :: ds)

/-- The greatest number of 64 bits. -/
def maxWord : Nat := UInt64.size - 1

/-- The greatest exponent that is kept. -/
def maxExponent : Nat := 0x7FFFFFFF

/-- `d / 10 ^ n`, first by steps of 308 places and rounded at each. -/
def scaleDown (d : Datum) (n : Nat) : Datum :=
  if n ≤ 308 then binary64.div d (binary64.ofNat (Nat.pow 10 n))
  else
    match d with
    | .finite _ 0 _ => d
    | _ => scaleDown (binary64.div d (binary64.ofNat (Nat.pow 10 308))) (n - 308)
termination_by n

/-- `significand * 10 ^ exponent`, unless that is beyond the greatest finite number. -/
def scaled (significand : Nat) (exponent : Int) : Option Datum :=
  let d := binary64.ofNat significand
  if exponent < 0 then some (scaleDown d (-exponent).toNat)
  else if significand = 0 then some d
  else if 308 < exponent then none
  else
    match binary64.mul d (binary64.ofNat (Nat.pow 10 exponent.toNat)) with
    | .infinite _ => none
    | p => some p

/-- `d` with a sign. -/
def withSign (negative : Bool) : Datum → Datum
  | .finite s m e => .finite (s != negative) m e
  | .infinite s => .infinite (s != negative)
  | .nan => .nan

namespace Numeral

variable (n : Numeral)

/-- The numeral is a plain string of digits, perhaps with a sign. -/
def isWhole : Bool := n.fraction.isEmpty && n.exponent.isNone

/-- The significand and the power of ten that it is short of the numeral without its exponent.
Digits before the point that do not fit still count as places; those behind it are dropped. -/
def significand : Nat × Int :=
  let (a, overflow) := absorb maxWord 0 n.whole
  let (b, dropped) := absorb maxWord a n.fraction
  (b, (overflow.length : Int) - ((n.fraction.length : Int) - dropped.length))

/-- The floating-point number that the numeral stands for, or the number of bytes of the numeral
left unread when it turns out to be out of range. -/
def toDatum : Except Nat Datum :=
  let (m, places) := n.significand
  match n.exponent with
  | none =>
    match scaled m places with
    | some d => .ok (withSign n.negative d)
    | none => .error 0
  | some (small, digits) =>
    match absorb maxExponent 0 digits with
    | (x, []) =>
      match scaled m (if small then places - x else places + x) with
      | some d => .ok (withSign n.negative d)
      | none => .error 0
    | (_, _ :: unread) =>
      if m = 0 ∨ small then .ok (.finite n.negative 0 binary64.minExponent)
      else .error unread.length

/-- What the numeral stands for, or the number of its bytes left unread when it turns out to be out
of range. -/
def value : Except Nat Number :=
  match n.isWhole, absorb maxWord 0 n.whole with
  | true, (m, []) =>
    if n.negative then
      if m = 0 ∨ 0x8000000000000000 < m then .ok (.floating (withSign true (binary64.ofNat m)))
      else .ok (.integer (-(m : Int)))
    else .ok (.integer m)
  | _, _ => n.toDatum.map .floating

end Numeral

/-- Reads a number and says what it stands for. -/
def readNumber (cs : List Char) : Except Failure (Number × List Char) := do
  let (n, rest) ← scanNumber .endInValue cs
  match n.value with
  | .ok v => return (v, rest)
  | .error unread => .error ⟨.numberOutOfRange, byteCount rest + unread⟩

theorem readNumber_length {cs rest : List Char} {v : Number}
    (h : readNumber cs = .ok (v, rest)) : rest.length < cs.length := by
  simp only [readNumber, bind, Except.bind] at h
  split at h
  · simp at h
  · next u hu =>
    have := scanNumber_length (show _ = Except.ok (u.1, u.2) from hu)
    split at h
    · simp [pure, Except.pure] at h
      rw [← h.2]
      exact this
    · simp at h

end ShaperDash.Json
