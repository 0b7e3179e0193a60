import ShaperDash.Json.Skip

/-!
# Records

A `Record` names its fields and reads each into a draft of the value.  The document may spell it as
an object, whose members come in any order and may include members that nobody asked for, or as a
list of the fields in their order.  A field that is not required may be left out and then keeps the
value of the draft; a field may not be given twice.
-/

namespace ShaperDash.Json

variable {α : Type}

/-- A field of a record: reading it gives a change of the draft. -/
structure Field (α : Type) where
  name : String
  required : Bool
  reader : Reader (α → α)

/-- A record: the draft that reading starts with, and the fields in their order. -/
structure Record (α : Type) where
  name : String
  draft : α
  fields : List (Field α)

/-- A field whose value `set` puts into the draft. -/
def Field.of {β : Type} (name : String) (required : Bool) (r : Reader β) (set : β → α → α) :
    Field α := ⟨name, required, r.map set⟩

namespace Record

variable (R : Record α)

/-- What messages call the record. -/
def want : String := "struct " ++ R.name

/-- What messages call the record when a list is too short for it. -/
def wantLength : String := R.want ++ " with " ++ toString R.fields.length ++ " elements"

/-- The field of that name. -/
def field? (name : String) : Option (Field α) := R.fields.find? (·.name = name)

/-- The first required field that is not among the names given. -/
def missing? (given : List String) : Option (Field α) :=
  R.fields.find? fun f => f.required && !given.contains f.name

/-! ### Objects -/

/-- The text behind blanks and, if it comes next, the closing bracket of an object. -/
def pastClosing (cs : List Char) : List Char :=
  match skipBlanks cs with
  | [] => []
  | c :: rest => if c = '}' then rest else c :: rest

/-- Ends an object at its closing bracket. -/
def finish (draft : α) (given : List String) (rest : List Char) :
    Except Failure (α × List Char) :=
  match R.missing? given with
  | some f => failAt rest (.missingField f.name)
  | none => .ok (draft, rest)

/-- Reads the value of a member whose key is `key` behind the key. -/
def readMember (key : String) (draft : α) (given : List String) (cs : List Char) :
    Except Failure ((α × List String) × List Char) :=
  match R.field? key with
  | none =>
    match takeColon cs with
    | .error e => .error e
    | .ok rest => (skipValue rest).map fun rest => ((draft, given), rest)
  | some f =>
    if given.contains f.name then failAt (pastClosing cs) (.duplicateField f.name)
    else
      match takeColon cs with
      | .error e => .error e
      | .ok rest =>
        (f.reader.run rest).map fun (set, rest) => ((set draft, f.name :: given), rest)

theorem readMember_length {key : String} {draft : α} {given : List String} {cs rest : List Char}
    {s : α × List String} (h : R.readMember key draft given cs = .ok (s, rest)) :
    rest.length < cs.length := by
  unfold readMember at h
  split at h
  · split at h
    · simp at h
    · next r hr =>
      have h1 := takeColon_length hr
      simp only [Except.map] at h
      split at h
      · simp at h
      · next v hv =>
        have h2 := skipValue_length hv
        simp at h
        rw [← h.2]
        omega
  · split at h
    · simp [failAt] at h
    · split at h
      · simp at h
      · next f _ _ _ r hr =>
        have h1 := takeColon_length hr
        simp only [Except.map] at h
        split at h
        · simp at h
        · next v hv =>
          have h2 := f.reader.shorter (show _ = Except.ok (v.1, v.2) from hv)
          simp at h
          rw [← h.2]
          omega

/-- Reads the members of an object behind its opening bracket or a member. -/
def readMembers (first : Bool) (draft : α) (given : List String) (cs : List Char) :
    Except Failure (α × List Char) :=
  match hk : nextKey first cs with
  | .error e => .error e
  | .ok (false, rest) => R.finish draft given rest.tail
  | .ok (true, rest) =>
    match hs : scanString rest with
    | .error e => .error e
    | .ok (key, rest') =>
      match hm : R.readMember (String.ofList key) draft given rest' with
      | .error e => .error e
      | .ok ((draft, given), rest'') =>
        have := nextKey_length hk
        have := scanString_length hs
        have := R.readMember_length hm
        readMembers false draft given rest''
termination_by cs.length

theorem readMembers_length {b : Bool} {draft : α} {given : List String} {cs rest : List Char}
    {a : α} (h : R.readMembers b draft given cs = .ok (a, rest)) : rest.length ≤ cs.length := by
  fun_induction R.readMembers b draft given cs with
  | case1 => simp at h
  | case2 b draft given cs r hr =>
    have := nextKey_length hr
    unfold finish at h
    split at h
    · simp [failAt] at h
    · simp at h
      rw [← h.2]
      simp
      omega
  | case3 => simp at h
  | case4 => simp at h
  | case5 => next ih => have := ih h; omega

/-! ### Lists -/

/-- The place, counted from `i`, of the first required field. -/
def firstRequired (i : Nat) : List (Field α) → Option Nat
  | [] => none
  | f :: fs => if f.required then some i else firstRequired (i + 1) fs

/-- Reads the elements for the fields left, of which the first has the place `i`. -/
def readFields (first : Bool) (i : Nat) (draft : α) :
    List (Field α) → List Char → Except Failure (α × List Char)
  | [], cs => (closeList cs).map fun rest => (draft, rest)
  | f :: fs, cs =>
    match nextElement first cs with
    | .error e => .error e
    | .ok (false, rest) =>
      match firstRequired i (f :: fs) with
      | some n => failAt rest.tail (.wrongLength n R.wantLength)
      | none => .ok (draft, rest.tail)
    | .ok (true, rest) =>
      match f.reader.run rest with
      | .error e => .error e
      | .ok (set, rest) => readFields false (i + 1) (set draft) fs rest

theorem readFields_length {b : Bool} {i : Nat} {draft a : α} {fs : List (Field α)}
    {cs rest : List Char} (h : R.readFields b i draft fs cs = .ok (a, rest)) :
    rest.length ≤ cs.length := by
  induction fs generalizing b i draft cs with
  | nil =>
    simp only [readFields, Except.map] at h
    split at h
    · simp at h
    · next v hv =>
      have := closeList_length hv
      simp at h
      rw [← h.2]
      omega
  | cons f fs ih =>
    simp only [readFields] at h
    split at h
    · simp at h
    · next r hr =>
      have h1 := nextElement_length hr
      split at h
      · simp [failAt] at h
      · simp at h
        rw [← h.2]
        simp
        omega
    · next r hr =>
      have h1 := nextElement_length hr
      split at h
      · simp at h
      · next v hv =>
        have h2 := f.reader.shorter hv
        have h3 := ih h
        omega

/-! ### Both spellings -/

/-- Reads a record in either spelling. -/
def reader : Reader α where
  run cs :=
    match skipBlanks cs with
    | [] => failPast [] .endInValue
    | c :: rest =>
      if c = '{' then R.readMembers true R.draft [] rest
      else if c = '[' then R.readFields true 0 R.draft R.fields rest
      else mismatch R.want (c :: rest)
  shorter {cs a rest} h := by
    have hs := skipBlanks_length_le cs
    split at h
    · simp [failPast] at h
    · next c r hr =>
      rw [hr] at hs
      simp only [List.length_cons] at hs
      split at h
      · have := R.readMembers_length h
        omega
      · split at h
        · have := R.readFields_length h
          omega
        · exact absurd h mismatch_ne_ok

end Record

end ShaperDash.Json
