import ShaperDash.Json.Number

/-!
# Readers

A `Reader` takes one value off the unread text.  It always takes something, so that a loop over
values ends.  Scalars are read in one way: `readHead` reads whatever scalar stands there, and the
reader accepts it or says what it wanted instead.  Lists and pairs are built from the readers of
their elements, and `Reader.decode` reads a whole document.
-/

namespace ShaperDash.Json

/-- Reads one value and leaves a shorter text. -/
structure Reader (α : Type) where
  run : List Char → Except Failure (α × List Char)
  shorter : ∀ {cs a rest}, run cs = .ok (a, rest) → rest.length < cs.length

namespace Reader

variable {α β : Type}

/-- Applies a function to what is read. -/
def map (f : α → β) (r : Reader α) : Reader β where
  run cs := (r.run cs).map fun (a, rest) => (f a, rest)
  shorter h := by
    simp only [Except.map] at h
    split at h
    · simp at h
    · next v hv =>
      have := r.shorter (show _ = Except.ok (v.1, v.2) from hv)
      simp at h
      rw [← h.2]
      exact this

end Reader

/-! ### Heads and scalars -/

/-- Reads a word with its first letter, and answers with what it stands for. -/
def readWord (word : List Char) (head : Head) (cs : List Char) :
    Except Failure (Head × List Char) :=
  (scanWord word cs).map fun rest => (head, rest)

/-- Reads the scalar at the start of the text, or looks at the bracket there. -/
def readHead : List Char → Except Failure (Head × List Char)
  | [] => failPast [] .endInValue
  | c :: rest =>
    if c = 'n' then readWord ['u', 'l', 'l'] .null rest
    else if c = 't' then readWord ['r', 'u', 'e'] (.boolean true) rest
    else if c = 'f' then readWord ['a', 'l', 's', 'e'] (.boolean false) rest
    else if c = '"' then
      (scanString rest).map fun (s, rest) => (.text (String.ofList s), rest)
    else if c = '-' ∨ isDigit c then
      (readNumber (c :: rest)).map fun (n, rest) =>
        match n with
        | .integer i => (.integer i, rest)
        | .floating d => (.floating d, rest)
    else if c = '[' then .ok (.sequence, c :: rest)
    else if c = '{' then .ok (.map, c :: rest)
    else failPast (c :: rest) .valueExpected

/-- Says that the value at the start of the text is not what was wanted. -/
def mismatch {α : Type} (want : String) (cs : List Char) : Except Failure α :=
  match readHead cs with
  | .error e => .error e
  | .ok (head, rest) => failAt rest (.wrongType head want)

theorem mismatch_ne_ok {α : Type} {want : String} {cs : List Char} {a : α} :
    mismatch want cs ≠ .ok a := by
  unfold mismatch
  split <;> simp [failAt]

/-- The head is an opening bracket. -/
def Head.isOpening : Head → Bool
  | .sequence => true
  | .map => true
  | _ => false

theorem readWord_length {w cs rest : List Char} {h₀ head : Head}
    (h : readWord w h₀ cs = .ok (head, rest)) : rest.length ≤ cs.length := by
  simp only [readWord, Except.map] at h
  split at h
  · simp at h
  · next v hv =>
    have := scanWord_length_le hv
    simp at h
    rw [← h.2]
    exact this

theorem readHead_length {cs rest : List Char} {head : Head} (h : readHead cs = .ok (head, rest))
    (hs : head.isOpening = false) : rest.length < cs.length := by
  unfold readHead at h
  split at h
  · simp [failPast] at h
  · next c r =>
    repeat' split at h
    · have := readWord_length h; simp; omega
    · have := readWord_length h; simp; omega
    · have := readWord_length h; simp; omega
    · simp only [Except.map] at h
      split at h
      · simp at h
      · next v hv =>
        have := scanString_length (show _ = Except.ok (v.1, v.2) from hv)
        simp at h
        simp only [List.length_cons, ← h.2]
        omega
    · simp only [Except.map] at h
      split at h
      · simp at h
      · next v hv =>
        have := readNumber_length (show _ = Except.ok (v.1, v.2) from hv)
        simp at h
        split at h <;> (simp at h; rw [← h.2]; exact this)
    · simp at h; simp [← h.1, Head.isOpening] at hs
    · simp at h; simp [← h.1, Head.isOpening] at hs
    · simp [failPast] at h

/-- A reader of scalars: `accept` gives the value of a head, or nothing if the head is not what the
reader wants, or the fault of a head of the right type with a wrong value. -/
def Reader.scalar {α : Type} (want : String) (accept : Head → Option (Except Cause α))
    (opening : ∀ h, h.isOpening = true → accept h = none) : Reader α where
  run cs :=
    match readHead (skipBlanks cs) with
    | .error e => .error e
    | .ok (head, rest) =>
      match accept head with
      | none => failAt rest (.wrongType head want)
      | some (.error cause) => failAt rest cause
      | some (.ok a) => .ok (a, rest)
  shorter {cs a rest} h := by
    have hb := skipBlanks_length_le cs
    split at h
    · simp at h
    · next head r hr =>
      split at h
      · simp [failAt] at h
      · simp [failAt] at h
      · next b ha =>
        have hs : head.isOpening = false := by
          cases hh : head.isOpening
          · rfl
          · rw [opening head hh] at ha; simp at ha
        have := readHead_length hr hs
        simp at h
        rw [← h.2]
        omega

namespace Reader

/-- A truth value. -/
def boolean : Reader Bool :=
  .scalar "a boolean"
    (fun | .boolean b => some (.ok b) | _ => none)
    (by intro h; cases h <;> simp [Head.isOpening])

/-- A text. -/
def text : Reader String :=
  .scalar "a string"
    (fun | .text s => some (.ok s) | _ => none)
    (by intro h; cases h <;> simp [Head.isOpening])

/-- A path, or `null` for none. -/
def optionalPath : Reader (Option String) :=
  .scalar "path string"
    (fun | .text s => some (.ok (some s)) | .null => some (.ok none) | _ => none)
    (by intro h; cases h <;> simp [Head.isOpening])

/-- A `null` that carries no information. -/
def unit : Reader Unit :=
  .scalar "unit"
    (fun | .null => some (.ok ()) | _ => none)
    (by intro h; cases h <;> simp [Head.isOpening])

/-- A natural number up to `limit`, which `want` names. -/
def natural (want : String) (limit : Nat) : Reader Nat :=
  .scalar want
    (fun
      | .integer i =>
        if 0 ≤ i ∧ i ≤ limit then some (.ok i.toNat) else some (.error (.wrongValue i want))
      | _ => none)
    (by intro h; cases h <;> simp [Head.isOpening])

/-- A natural number of 32 bits. -/
def word32 : Reader UInt32 := (natural "u32" (UInt32.size - 1)).map UInt32.ofNat

/-- A natural number of 64 bits. -/
def word64 : Reader UInt64 := (natural "u64" (UInt64.size - 1)).map UInt64.ofNat

/-- A natural number of 64 bits that counts things. -/
def count : Reader UInt64 := (natural "usize" (UInt64.size - 1)).map UInt64.ofNat

/-- A number, rounded to 32 bits. -/
def single : Reader Datum :=
  .scalar "f32"
    (fun
      | .integer i => some (.ok (binary32.ofInt i))
      | .floating d => some (.ok (binary32.convert d))
      | _ => none)
    (by intro h; cases h <;> simp [Head.isOpening])

end Reader

/-! ### Punctuation -/

/-- Whether another element follows in a list, and the text from there on: the element, or the
closing bracket. -/
def nextElement (first : Bool) (cs : List Char) : Except Failure (Bool × List Char) :=
  match skipBlanks cs with
  | [] => failPast [] .endInList
  | c :: rest =>
    if c = ']' then .ok (false, c :: rest)
    else if first then .ok (true, c :: rest)
    else if c = ',' then
      match skipBlanks rest with
      | [] => failPast [] .endInValue
      | d :: more =>
        if d = ']' then failPast (d :: more) .trailingComma else .ok (true, d :: more)
    else failPast (c :: rest) .listCommaExpected

theorem nextElement_length {b more : Bool} {cs rest : List Char}
    (h : nextElement b cs = .ok (more, rest)) : rest.length ≤ cs.length := by
  unfold nextElement at h
  have hb := skipBlanks_length_le cs
  split at h
  · simp [failPast] at h
  · next c r hr =>
    rw [hr] at hb
    split at h
    · simp at h; simpa [← h.2] using hb
    · split at h
      · simp at h; simpa [← h.2] using hb
      · split at h
        · have hb' := skipBlanks_length_le r
          split at h
          · simp [failPast] at h
          · next d m hd =>
            rw [hd] at hb'
            split at h
            · simp [failPast] at h
            · simp at h
              rw [← h.2]
              simp only [List.length_cons] at *
              omega
        · simp [failPast] at h

theorem nextElement_false {b : Bool} {cs rest : List Char}
    (h : nextElement b cs = .ok (false, rest)) : ∃ r, rest = ']' :: r := by
  unfold nextElement at h
  split at h
  · simp [failPast] at h
  · split at h
    · next hc => simp at h; exact ⟨_, by rw [← h, hc]⟩
    · split at h
      · simp at h
      · split at h
        · split at h
          · simp [failPast] at h
          · split at h <;> simp [failPast] at h
        · simp [failPast] at h

/-- Takes the closing bracket of a list that has all its elements. -/
def closeList (cs : List Char) : Except Failure (List Char) :=
  match skipBlanks cs with
  | [] => failPast [] .endInList
  | c :: rest =>
    if c = ']' then .ok rest
    else if c = ',' then
      let more := skipBlanks rest
      failPast more (if more.head? = some ']' then .trailingComma else .trailingCharacters)
    else failPast (c :: rest) .trailingCharacters

theorem closeList_length {cs rest : List Char} (h : closeList cs = .ok rest) :
    rest.length < cs.length := by
  unfold closeList at h
  have hb := skipBlanks_length_le cs
  split at h
  · simp [failPast] at h
  · next c r hr =>
    rw [hr] at hb
    split at h
    · simp at h
      rw [← h]
      simp only [List.length_cons] at hb
      omega
    · split at h <;> simp [failPast] at h

/-- Whether another member follows in an object, and the text from there on: behind the quotation
mark that opens its key, or the closing bracket. -/
def nextKey (first : Bool) (cs : List Char) : Except Failure (Bool × List Char) :=
  match skipBlanks cs with
  | [] => failPast [] .endInObject
  | c :: rest =>
    if c = '}' then .ok (false, c :: rest)
    else if first then
      if c = '"' then .ok (true, rest) else failPast (c :: rest) .keyExpected
    else if c = ',' then
      match skipBlanks rest with
      | [] => failPast [] .endInValue
      | d :: more =>
        if d = '"' then .ok (true, more)
        else failPast (d :: more) (if d = '}' then .trailingComma else .keyExpected)
    else failPast (c :: rest) .objectCommaExpected

theorem nextKey_length {b more : Bool} {cs rest : List Char}
    (h : nextKey b cs = .ok (more, rest)) : rest.length ≤ cs.length := by
  unfold nextKey at h
  have hb := skipBlanks_length_le cs
  split at h
  · simp [failPast] at h
  · next c r hr =>
    rw [hr] at hb
    split at h
    · simp at h; simpa [← h.2] using hb
    · split at h
      · split at h
        · simp at h
          rw [← h.2]
          simp only [List.length_cons] at hb
          omega
        · simp [failPast] at h
      · split at h
        · have hb' := skipBlanks_length_le r
          split at h
          · simp [failPast] at h
          · next d m hd =>
            rw [hd] at hb'
            split at h
            · simp at h
              rw [← h.2]
              simp only [List.length_cons] at *
              omega
            · simp [failPast] at h
        · simp [failPast] at h

theorem nextKey_false {b : Bool} {cs rest : List Char}
    (h : nextKey b cs = .ok (false, rest)) : ∃ r, rest = '}' :: r := by
  unfold nextKey at h
  split at h
  · simp [failPast] at h
  · split at h
    · next hc => simp at h; exact ⟨_, by rw [← h, hc]⟩
    · split at h
      · split at h <;> simp [failPast] at h
      · split at h
        · split at h
          · simp [failPast] at h
          · split at h <;> simp [failPast] at h
        · simp [failPast] at h

/-- Takes the colon behind a key. -/
def takeColon (cs : List Char) : Except Failure (List Char) :=
  match skipBlanks cs with
  | [] => failPast [] .endInObject
  | c :: rest => if c = ':' then .ok rest else failPast (c :: rest) .colonExpected

theorem takeColon_length {cs rest : List Char} (h : takeColon cs = .ok rest) :
    rest.length < cs.length := by
  unfold takeColon at h
  have hb := skipBlanks_length_le cs
  split at h
  · simp [failPast] at h
  · next c r hr =>
    rw [hr] at hb
    split at h
    · simp at h
      rw [← h]
      simp only [List.length_cons] at hb
      omega
    · simp [failPast] at h

/-! ### Lists and pairs -/

/-- Reads the elements of a list behind its opening bracket or an element. -/
def readElements {α : Type} (item : Reader α) (first : Bool) (cs : List Char) :
    Except Failure (List α × List Char) :=
  match hn : nextElement first cs with
  | .error e => .error e
  | .ok (false, rest) => .ok ([], rest.tail)
  | .ok (true, rest) =>
    match hi : item.run rest with
    | .error e => .error e
    | .ok (a, rest') =>
      have := nextElement_length hn
      have := item.shorter hi
      (readElements item false rest').map fun (as, rest) => (a :: as, rest)
termination_by cs.length

theorem readElements_length {α : Type} {item : Reader α} {b : Bool} {cs rest : List Char}
    {as : List α} (h : readElements item b cs = .ok (as, rest)) : rest.length ≤ cs.length := by
  fun_induction readElements item b cs generalizing as with
  | case1 => simp at h
  | case2 b cs r hr =>
    have := nextElement_length hr
    simp at h
    rw [← h.2]
    simp
    omega
  | case3 => simp at h
  | case4 b cs r hr a r' hi h1 h2 ih =>
    simp only [Except.map] at h
    split at h
    · simp at h
    · next v hv =>
      simp at h
      have := ih (show _ = Except.ok (v.1, rest) by rw [hv, ← h.2])
      omega

namespace Reader

variable {α β : Type}

/-- A reader of a value in brackets: `body` reads what is behind the opening bracket `open₁`. -/
def bracketed (want : String) (open₁ : Char) (body : List Char → Except Failure (α × List Char))
    (hb : ∀ {cs a rest}, body cs = .ok (a, rest) → rest.length ≤ cs.length) : Reader α where
  run cs :=
    match skipBlanks cs with
    | [] => failPast [] .endInValue
    | c :: rest => if c = open₁ then body rest else mismatch want (c :: rest)
  shorter {cs a rest} h := by
    have hs := skipBlanks_length_le cs
    split at h
    · simp [failPast] at h
    · next c r hr =>
      rw [hr] at hs
      split at h
      · have := hb h
        simp only [List.length_cons] at hs
        omega
      · exact absurd h mismatch_ne_ok

/-- A list. -/
def list (item : Reader α) : Reader (List α) :=
  bracketed "a sequence" '[' (readElements item true) readElements_length

/-- What a pair is called. -/
def pairWant : String := "a tuple of size 2"

/-- Reads the two elements of a pair behind its opening bracket. -/
def readPair (r : Reader α) (s : Reader β) (cs : List Char) :
    Except Failure ((α × β) × List Char) := do
  let (more, rest) ← nextElement true cs
  if more then
    let (a, rest) ← r.run rest
    let (more, rest) ← nextElement false rest
    if more then
      let (b, rest) ← s.run rest
      let rest ← closeList rest
      return ((a, b), rest)
    else failAt rest.tail (.wrongLength 1 pairWant)
  else failAt rest.tail (.wrongLength 0 pairWant)

theorem readPair_length {r : Reader α} {s : Reader β} {cs rest : List Char} {p : α × β}
    (h : readPair r s cs = .ok (p, rest)) : rest.length ≤ cs.length := by
  simp only [readPair, bind, Except.bind, pure, Except.pure] at h
  split at h
  · simp at h
  · next v hv =>
    have h1 := nextElement_length (show _ = Except.ok (v.1, v.2) from hv)
    split at h
    · split at h
      · simp at h
      · next w hw =>
        have h2 := r.shorter (show _ = Except.ok (w.1, w.2) from hw)
        split at h
        · simp at h
        · next x hx =>
          have h3 := nextElement_length (show _ = Except.ok (x.1, x.2) from hx)
          split at h
          · split at h
            · simp at h
            · next y hy =>
              have h4 := s.shorter (show _ = Except.ok (y.1, y.2) from hy)
              split at h
              · simp at h
              · next z hz =>
                have h5 := closeList_length hz
                simp at h
                rw [← h.2]
                omega
          · simp [failAt] at h
    · simp [failAt] at h

/-- A list of exactly two elements. -/
def pair (r : Reader α) (s : Reader β) : Reader (α × β) :=
  bracketed pairWant '[' (readPair r s) readPair_length

/-! ### Documents -/

/-- Reads a document that holds one value and nothing else but blanks. -/
def decode (r : Reader α) (document : String) : Except DecodeError α :=
  let cs := document.toList
  let result : Except Failure α :=
    match r.run cs with
    | .error e => .error e
    | .ok (a, rest) =>
      match skipBlanks rest with
      | [] => .ok a
      | c :: more => failPast (c :: more) .trailingCharacters
  result.mapError (·.locate cs)

end Reader

end ShaperDash.Json
