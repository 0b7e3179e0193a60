import ShaperDash.Json.Error

/-!
# Blanks, words and strings

The scanners below the level of values.  Each takes the unread text and returns what it read with
the text that is left; a lemma beside each says that the text left is no longer, or shorter.
-/

namespace ShaperDash.Json

/-! ### Blanks and words -/

/-- The blanks allowed between tokens. -/
def isBlank (c : Char) : Bool := c = ' ' || c = '\n' || c = '\t' || c = '\r'

/-- The text from the first character on that is no blank. -/
def skipBlanks (cs : List Char) : List Char := cs.dropWhile isBlank

theorem skipBlanks_length_le (cs : List Char) : (skipBlanks cs).length ≤ cs.length :=
  (List.dropWhile_sublist isBlank).length_le

/-- Reads the characters of `word`. -/
def scanWord : List Char → List Char → Except Failure (List Char)
  | [], rest => .ok rest
  | _ :: _, [] => failAt [] .endInValue
  | w :: ws, c :: rest => if c = w then scanWord ws rest else failPast (c :: rest) .wordExpected

theorem scanWord_length_le {ws cs rest : List Char} (h : scanWord ws cs = .ok rest) :
    rest.length ≤ cs.length := by
  induction ws generalizing cs with
  | nil => simp [scanWord] at h; simp [h]
  | cons w ws ih =>
    cases cs with
    | nil => simp [scanWord, failAt] at h
    | cons c cs =>
      simp only [scanWord] at h
      split at h
      · have := ih h; simp; omega
      · simp [failPast] at h

/-! ### Escapes -/

/-- The value of a hexadecimal digit. -/
def hexValue (c : Char) : Option Nat :=
  if '0' ≤ c ∧ c ≤ '9' then some (c.toNat - '0'.toNat)
  else if 'a' ≤ c ∧ c ≤ 'f' then some (c.toNat - 'a'.toNat + 10)
  else if 'A' ≤ c ∧ c ≤ 'F' then some (c.toNat - 'A'.toNat + 10)
  else none

/-- The value of four hexadecimal digits at the start of a text. -/
def hexQuad : List Char → Option (Nat × List Char)
  | a :: b :: c :: d :: rest => do
    let a ← hexValue a
    let b ← hexValue b
    let c ← hexValue c
    let d ← hexValue d
    return (((a * 16 + b) * 16 + c) * 16 + d, rest)
  | _ => none

theorem hexQuad_length {cs rest : List Char} {n : Nat} (h : hexQuad cs = some (n, rest)) :
    rest.length < cs.length := by
  unfold hexQuad at h
  split at h
  · simp only [Option.bind_eq_bind, Option.bind_eq_some_iff, Option.pure_def] at h
    obtain ⟨_, _, _, _, _, _, _, _, h⟩ := h
    simp only [Option.some.injEq, Prod.mk.injEq] at h
    simp only [List.length_cons, ← h.2]
    omega
  · simp at h

/-- Reads the four digits of a `\u` escape; what takes their place is four bytes long. -/
def scanHex (cs : List Char) : Except Failure (Nat × List Char) :=
  match hexQuad cs with
  | some r => .ok r
  | none =>
    if byteCount cs < 4 then failAt [] .endInString
    else .error ⟨.invalidEscape, byteCount cs - 4⟩

theorem scanHex_length {cs rest : List Char} {n : Nat} (h : scanHex cs = .ok (n, rest)) :
    rest.length < cs.length := by
  unfold scanHex at h
  split at h
  · next heq => simp only [Except.ok.injEq] at h; subst h; exact hexQuad_length heq
  · split at h <;> simp [failAt] at h

/-- The first half of a code point beyond `U+FFFF`. -/
def isLeading (n : Nat) : Bool := 0xD800 ≤ n && n ≤ 0xDBFF

/-- The second half of a code point beyond `U+FFFF`. -/
def isTrailing (n : Nat) : Bool := 0xDC00 ≤ n && n ≤ 0xDFFF

/-- Reads a given character of the second half of a surrogate pair. -/
def scanPairMark (mark : Char) : List Char → Except Failure (List Char)
  | [] => failAt [] .endInString
  | c :: rest => if c = mark then .ok rest else failPast (c :: rest) .endOfSurrogate

theorem scanPairMark_length {m : Char} {cs rest : List Char} (h : scanPairMark m cs = .ok rest) :
    rest.length < cs.length := by
  unfold scanPairMark at h
  split at h
  · simp [failAt] at h
  · split at h
    · simp at h; simp [h]
    · simp [failPast] at h

/-- Reads what follows `\u`: one character, spelled as one code unit or as a surrogate pair. -/
def scanUnicode (cs : List Char) : Except Failure (Char × List Char) := do
  let (first, rest) ← scanHex cs
  if isTrailing first then failAt rest .loneSurrogate
  else if isLeading first then
    let rest ← scanPairMark '\\' rest
    let rest ← scanPairMark 'u' rest
    let (second, rest) ← scanHex rest
    if isTrailing second then
      return (Char.ofNat (0x10000 + (first - 0xD800) * 0x400 + (second - 0xDC00)), rest)
    else failAt rest .loneSurrogate
  else return (Char.ofNat first, rest)

theorem scanUnicode_length {cs rest : List Char} {c : Char}
    (h : scanUnicode cs = .ok (c, rest)) : rest.length < cs.length := by
  simp only [scanUnicode, bind, Except.bind, pure, Except.pure] at h
  split at h
  · simp at h
  · next r hr =>
    have h0 := scanHex_length hr
    split at h
    · simp [failAt] at h
    · split at h
      · split at h
        · simp at h
        · next s hs =>
          have h1 := scanPairMark_length hs
          split at h
          · simp at h
          · next t ht =>
            have h2 := scanPairMark_length ht
            split at h
            · simp at h
            · next u hu =>
              have h3 := scanHex_length hu
              split at h
              · simp at h; rw [← h.2]; omega
              · simp [failAt] at h
      · simp at h; rw [← h.2]; omega

/-- The character that a one-letter escape stands for. -/
def letterEscape (c : Char) : Option Char :=
  match c with
  | '"' => some '"'
  | '\\' => some '\\'
  | '/' => some '/'
  | 'b' => some '\x08'
  | 'f' => some '\x0c'
  | 'n' => some '\n'
  | 'r' => some '\r'
  | 't' => some '\t'
  | _ => none

/-- Reads what follows a backslash. -/
def scanEscape : List Char → Except Failure (Char × List Char)
  | [] => failAt [] .endInString
  | c :: rest =>
    if c = 'u' then scanUnicode rest
    else
      match letterEscape c with
      | some d => .ok (d, rest)
      | none => failPast (c :: rest) .invalidEscape

theorem scanEscape_length {cs rest : List Char} {c : Char} (h : scanEscape cs = .ok (c, rest)) :
    rest.length < cs.length := by
  unfold scanEscape at h
  split at h
  · simp [failAt] at h
  · split at h
    · have := scanUnicode_length h; simp; omega
    · split at h
      · simp at h; simp [h]
      · simp [failPast] at h

/-! ### Strings -/

/-- Reads one character of a string, or nothing at its closing quotation mark. -/
def scanStringChar : List Char → Except Failure (Option Char × List Char)
  | [] => failAt [] .endInString
  | c :: rest =>
    if c = '"' then .ok (none, rest)
    else if c = '\\' then (scanEscape rest).map fun (d, rest) => (some d, rest)
    else if c < ' ' then failAt rest .controlCharacter
    else .ok (some c, rest)

theorem scanStringChar_length {cs rest : List Char} {c : Option Char}
    (h : scanStringChar cs = .ok (c, rest)) : rest.length < cs.length := by
  unfold scanStringChar at h
  split at h
  · simp [failAt] at h
  · split at h
    · simp at h; simp [h]
    · split at h
      · simp only [Except.map] at h
        split at h
        · simp at h
        · next heq =>
          have := scanEscape_length heq
          simp at h
          simp [← h.2]
          omega
      · split at h
        · simp [failAt] at h
        · simp at h; simp [h]

/-- Reads a string behind its opening quotation mark. -/
def scanString (cs : List Char) : Except Failure (List Char × List Char) :=
  match h : scanStringChar cs with
  | .error e => .error e
  | .ok (none, rest) => .ok ([], rest)
  | .ok (some c, rest) =>
    have := scanStringChar_length h
    (scanString rest).map fun (tail, rest) => (c :: tail, rest)
termination_by cs.length

theorem scanString_length {cs rest s : List Char} (h : scanString cs = .ok (s, rest)) :
    rest.length < cs.length := by
  fun_induction scanString cs generalizing s with
  | case1 => simp at h
  | case2 cs r hr =>
    simp at h
    rw [← h.2]
    exact scanStringChar_length hr
  | case3 cs c r hr this ih =>
    simp only [Except.map] at h
    split at h
    · simp at h
    · next v hv =>
      simp at h
      have := ih (s := v.1) (by rw [hv, ← h.2])
      omega

/-! ### Strings that nobody wants -/

/-- Passes over one character of a string, or over its closing quotation mark; the code units of an
escape need not pair up. -/
def skipStringChar : List Char → Except Failure (Bool × List Char)
  | [] => failAt [] .endInString
  | c :: rest =>
    if c = '"' then .ok (false, rest)
    else if c = '\\' then
      match rest with
      | [] => failAt [] .endInString
      | d :: rest =>
        if d = 'u' then (scanHex rest).map fun (_, rest) => (true, rest)
        else if (letterEscape d).isSome then .ok (true, rest)
        else failPast (d :: rest) .invalidEscape
    else if c < ' ' then failAt (c :: rest) .controlCharacter
    else .ok (true, rest)

theorem skipStringChar_length {cs rest : List Char} {b : Bool}
    (h : skipStringChar cs = .ok (b, rest)) : rest.length < cs.length := by
  unfold skipStringChar at h
  split at h
  · simp [failAt] at h
  · split at h
    · simp at h; simp [h]
    · split at h
      · split at h
        · simp [failAt] at h
        · split at h
          · simp only [Except.map] at h
            split at h
            · simp at h
            · next heq =>
              have := scanHex_length heq
              simp at h
              simp [← h.2]
              omega
          · split at h
            · simp at h; simp only [List.length_cons, ← h.2]; omega
            · simp [failPast] at h
      · split at h
        · simp [failAt] at h
        · simp at h; simp [h]

/-- Passes over a string behind its opening quotation mark. -/
def skipString (cs : List Char) : Except Failure (List Char) :=
  match h : skipStringChar cs with
  | .error e => .error e
  | .ok (false, rest) => .ok rest
  | .ok (true, rest) =>
    have := skipStringChar_length h
    skipString rest
termination_by cs.length

theorem skipString_length {cs rest : List Char} (h : skipString cs = .ok rest) :
    rest.length < cs.length := by
  fun_induction skipString cs with
  | case1 => simp at h
  | case2 cs r hr =>
    simp at h
    rw [← h]
    exact skipStringChar_length hr
  | case3 cs r hr this ih =>
    have := ih h
    omega

end ShaperDash.Json
