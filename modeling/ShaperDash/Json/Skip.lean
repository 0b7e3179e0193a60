import ShaperDash.Json.Reader

/-!
# Passing over a value

`skipValue` passes over a value that nobody wants, however deep it is.  The brackets that are open
are kept in a list, so the depth costs no recursion; strings are checked for their escapes and
numbers for their spelling only.
-/

namespace ShaperDash.Json

/-- An open bracket. -/
inductive Bracket
  | square
  | curly
  deriving DecidableEq, Repr

namespace Bracket

def closing : Bracket → Char
  | .square => ']'
  | .curly => '}'

/-- The fault of a text that is over before the bracket is closed. -/
def unclosed : Bracket → Cause
  | .square => .endInList
  | .curly => .endInObject

/-- The fault of an element that is followed by neither a comma nor the closing bracket. -/
def commaExpected : Bracket → Cause
  | .square => .listCommaExpected
  | .curly => .objectCommaExpected

end Bracket

/-- Passes over the key of a member and its colon. -/
def skipKey (cs : List Char) : Except Failure (List Char) :=
  match skipBlanks cs with
  | [] => failPast [] .endInObject
  | c :: rest =>
    if c = '"' then
      match skipString rest with
      | .error e => .error e
      | .ok rest => takeColon rest
    else failPast (c :: rest) .keyExpected

theorem skipKey_length {cs rest : List Char} (h : skipKey cs = .ok rest) :
    rest.length < cs.length := by
  unfold skipKey at h
  have hb := skipBlanks_length_le cs
  split at h
  · simp [failPast] at h
  · next c r hr =>
    rw [hr] at hb
    split at h
    · split at h
      · simp at h
      · next s hs =>
        have h1 := skipString_length hs
        have h2 := takeColon_length h
        simp only [List.length_cons] at hb
        omega
    · simp [failPast] at h

/-- Where a new element of an open bracket begins: behind the key in an object. -/
def enterElement (b : Bracket) (cs : List Char) : Except Failure (List Char) :=
  match b with
  | .square => .ok cs
  | .curly => skipKey cs

theorem enterElement_length {b : Bracket} {cs rest : List Char} (h : enterElement b cs = .ok rest) :
    rest.length ≤ cs.length := by
  cases b with
  | square => simp [enterElement] at h; simp [h]
  | curly => exact Nat.le_of_lt (skipKey_length h)

/-- What `skipScalar` found. -/
inductive Skipped
  /-- A scalar, passed over. -/
  | scalar (rest : List Char)
  /-- An opening bracket, passed over. -/
  | opened (b : Bracket) (rest : List Char)

/-- Passes over a scalar or an opening bracket. -/
def skipScalar : List Char → Except Failure Skipped
  | [] => failPast [] .endInValue
  | c :: rest =>
    if c = 'n' then (scanWord ['u', 'l', 'l'] rest).map .scalar
    else if c = 't' then (scanWord ['r', 'u', 'e'] rest).map .scalar
    else if c = 'f' then (scanWord ['a', 'l', 's', 'e'] rest).map .scalar
    else if c = '"' then (skipString rest).map .scalar
    else if c = '-' ∨ isDigit c then
      (scanNumber .invalidNumber (c :: rest)).map fun (_, rest) => .scalar rest
    else if c = '[' then .ok (.opened .square rest)
    else if c = '{' then .ok (.opened .curly rest)
    else failPast (c :: rest) .valueExpected

/-- The text behind what `skipScalar` found. -/
def Skipped.rest : Skipped → List Char
  | .scalar rest => rest
  | .opened _ rest => rest

theorem skipScalar_length {cs : List Char} {s : Skipped} (h : skipScalar cs = .ok s) :
    s.rest.length < cs.length := by
  unfold skipScalar at h
  split at h
  · simp [failPast] at h
  · next c r =>
    have word : ∀ {w : List Char}, (scanWord w r).map Skipped.scalar = .ok s →
        s.rest.length < (c :: r).length := by
      intro w hw
      simp only [Except.map] at hw
      split at hw
      · simp at hw
      · next v hv =>
        have := scanWord_length_le hv
        simp at hw
        simp only [← hw, Skipped.rest, List.length_cons]
        omega
    repeat' split at h
    · exact word h
    · exact word h
    · exact word h
    · simp only [Except.map] at h
      split at h
      · simp at h
      · next v hv =>
        have := skipString_length hv
        simp at h
        simp only [← h, Skipped.rest, List.length_cons]
        omega
    · simp only [Except.map] at h
      split at h
      · simp at h
      · next v hv =>
        have := scanNumber_length (show _ = Except.ok (v.1, v.2) from hv)
        simp at h
        simpa only [← h, Skipped.rest] using this
    · simp at h; simp [← h, Skipped.rest]
    · simp at h; simp [← h, Skipped.rest]
    · simp [failPast] at h

/-- Passes over all that is left of a value whose brackets `open₁` are still open.  With `inside`
set a value begins here, and otherwise one has just ended. -/
def skipOpen (inside : Bool) (open₁ : List Bracket) (cs : List Char) : Except Failure (List Char) :=
  if inside then
    match h : skipScalar (skipBlanks cs) with
    | .error e => .error e
    | .ok (.scalar rest) =>
      have := skipBlanks_length_le cs
      have := skipScalar_length h
      have : rest.length < cs.length := by simp only [Skipped.rest] at *; omega
      skipOpen false open₁ rest
    | .ok (.opened b rest) =>
      have := skipBlanks_length_le cs
      have := skipScalar_length h
      have : rest.length < cs.length := by simp only [Skipped.rest] at *; omega
      match hr : skipBlanks rest with
      | [] => failPast [] b.unclosed
      | c :: more =>
        have := hr ▸ skipBlanks_length_le rest
        if c = b.closing then
          have : more.length < cs.length := by simp only [List.length_cons] at *; omega
          skipOpen false open₁ more
        else
          match he : enterElement b (c :: more) with
          | .error e => .error e
          | .ok rest' =>
            have := enterElement_length he
            have : rest'.length < cs.length := by simp only [List.length_cons] at *; omega
            skipOpen true (b :: open₁) rest'
  else
    match open₁ with
    | [] => .ok cs
    | b :: outer =>
      match hr : skipBlanks cs with
      | [] => failPast [] b.unclosed
      | c :: more =>
        have := hr ▸ skipBlanks_length_le cs
        have : more.length < cs.length := by simp only [List.length_cons] at *; omega
        if c = b.closing then skipOpen false outer more
        else if c = ',' then
          match he : enterElement b more with
          | .error e => .error e
          | .ok rest' =>
            have := enterElement_length he
            have : rest'.length < cs.length := by omega
            skipOpen true (b :: outer) rest'
        else failPast (c :: more) b.commaExpected
termination_by cs.length

/-- Passes over one value. -/
def skipValue (cs : List Char) : Except Failure (List Char) := skipOpen true [] cs

theorem skipOpen_length {b : Bool} {o : List Bracket} {cs rest : List Char}
    (h : skipOpen b o cs = .ok rest) : rest.length ≤ cs.length := by
  fun_induction skipOpen b o cs with
  | case1 => simp at h
  | case2 => next ih => have := ih h; omega
  | case3 => simp [failPast] at h
  | case4 => next ih => have := ih h; omega
  | case5 => simp at h
  | case6 => next ih => have := ih h; omega
  | case7 => simp at h; simp [h]
  | case8 => simp [failPast] at h
  | case9 => next ih => have := ih h; omega
  | case10 => simp at h
  | case11 => next ih => have := ih h; omega
  | case12 => simp [failPast] at h

theorem skipValue_length {cs rest : List Char} (h : skipValue cs = .ok rest) :
    rest.length ≤ cs.length := skipOpen_length h

end ShaperDash.Json
