import ShaperDash.Json.Reader

/-!
# Named variants

A value that is one of a few names, spelled as a string, or as an object whose only key is the name
and whose value is `null`.
-/

namespace ShaperDash.Json

variable {α : Type}

/-- Reads a string that is one of the names. -/
def Reader.name (names : List (String × α)) : Reader α :=
  .scalar "variant identifier"
    (fun
      | .text s =>
        match names.lookup s with
        | some a => some (.ok a)
        | none => some (.error (.unknownVariant s (names.map (·.1))))
      | _ => none)
    (by intro h; cases h <;> simp [Head.isOpening])

/-- Reads the value behind the only key of the object form, and the closing bracket. -/
def closeVariant (a : α) (cs : List Char) : Except Failure (α × List Char) := do
  let rest ← takeColon cs
  let ((), rest) ← Reader.unit.run rest
  match skipBlanks rest with
  | [] => failAt [] .endInObject
  | c :: more => if c = '}' then return (a, more) else failAt (c :: more) .valueExpected

/-- Reads the object form of a variant behind the opening bracket. -/
def readVariant (names : List (String × α)) (cs : List Char) : Except Failure (α × List Char) :=
  match skipBlanks cs with
  | [] => failAt [] .endInObject
  | c :: rest =>
    if c = '}' then failPast (c :: rest) .valueExpected
    else if c = '"' then do
      let (a, rest) ← (Reader.name names).run (c :: rest)
      closeVariant a rest
    else failPast (c :: rest) .keyExpected

theorem closeVariant_length {a b : α} {cs rest : List Char}
    (h : closeVariant a cs = .ok (b, rest)) : rest.length ≤ cs.length := by
  simp only [closeVariant, bind, Except.bind, pure, Except.pure] at h
  split at h
  · simp at h
  · next v hv =>
    have h2 := takeColon_length hv
    split at h
    · simp at h
    · next w hw =>
      have h3 := Reader.unit.shorter (show _ = Except.ok (w.1, w.2) from hw)
      have hb := skipBlanks_length_le w.2
      split at h
      · simp [failAt] at h
      · next c m hm =>
        rw [hm] at hb
        simp only [List.length_cons] at hb
        split at h
        · simp at h
          rw [← h.2]
          omega
        · simp [failAt] at h

theorem readVariant_length {names : List (String × α)} {cs rest : List Char} {a : α}
    (h : readVariant names cs = .ok (a, rest)) : rest.length ≤ cs.length := by
  have hs := skipBlanks_length_le cs
  simp only [readVariant, bind, Except.bind] at h
  split at h
  · simp [failAt] at h
  · next c r hr =>
    rw [hr] at hs
    split at h
    · simp [failPast] at h
    · split at h
      · split at h
        · simp at h
        · next u hu =>
          have h1 := (Reader.name names).shorter (show _ = Except.ok (u.1, u.2) from hu)
          have h2 := closeVariant_length h
          omega
      · simp [failPast] at h

/-- Reads one of the names in either spelling, with blanks before it. -/
def readSpelling (names : List (String × α)) (cs : List Char) : Except Failure (α × List Char) :=
  match skipBlanks cs with
  | [] => failPast [] .endInValue
  | c :: rest =>
    if c = '{' then readVariant names rest
    else if c = '"' then (Reader.name names).run (c :: rest)
    else failPast (c :: rest) .valueExpected

theorem readSpelling_length {names : List (String × α)} {cs rest : List Char} {a : α}
    (h : readSpelling names cs = .ok (a, rest)) : rest.length < cs.length := by
  have hs := skipBlanks_length_le cs
  unfold readSpelling at h
  split at h
  · simp [failPast] at h
  · next c r hr =>
    rw [hr] at hs
    split at h
    · have := readVariant_length h
      simp only [List.length_cons] at hs
      omega
    · split at h
      · have := (Reader.name names).shorter h
        omega
      · simp [failPast] at h

/-- Reads one of the names in either spelling. -/
def Reader.variant (names : List (String × α)) : Reader α :=
  ⟨readSpelling names, readSpelling_length⟩

end ShaperDash.Json
