import ShaperDash.Json.Record

/-!
# The loops of the readers, one turn at a time

A loop over a text comes with the proof that each turn shortens it, which its equation carries
along.  The lemmas here say what one turn does without that proof: they take what the turn has read
and give the rest of the loop.
-/

namespace ShaperDash.Json

variable {α β : Type} {cs rest : List Char}

/-! ### Outcomes -/

theorem map_eq_ok_iff {f : α → β} {x : Except Failure α} {b : β} :
    x.map f = .ok b ↔ ∃ a, x = .ok a ∧ f a = b := by
  cases x <;> simp [Except.map]

theorem bind_eq_ok_iff {x : Except Failure α} {f : α → Except Failure β} {b : β} :
    x >>= f = .ok b ↔ ∃ a, x = .ok a ∧ f a = .ok b := by
  cases x <;> simp [bind, Except.bind]

theorem toOption_eq_some_iff {ε : Type} {x : Except ε α} {a : α} :
    x.toOption = some a ↔ x = .ok a := by
  cases x <;> simp [Except.toOption]

theorem toOption_map (f : α → β) (x : Except Failure α) :
    (x.map f).toOption = x.toOption.map f := by
  cases x <;> rfl

theorem toOption_bind (x : Except Failure α) (f : α → Except Failure β) :
    (x >>= f).toOption = x.toOption.bind fun a => (f a).toOption := by
  cases x <;> rfl

@[simp] theorem ok_toOption {ε : Type} (a : α) : (Except.ok a : Except ε α).toOption = some a := rfl

@[simp] theorem error_toOption {ε : Type} (e : ε) : (Except.error e : Except ε α).toOption = none :=
  rfl

@[simp] theorem pure_toOption (a : α) : (pure a : Except Failure α).toOption = some a := rfl

@[simp] theorem failAt_toOption (rest : List Char) (cause : Cause) :
    (failAt rest cause : Except Failure α).toOption = none := rfl

@[simp] theorem failPast_toOption (rest : List Char) (cause : Cause) :
    (failPast rest cause : Except Failure α).toOption = none := rfl

@[simp] theorem ok_map (f : α → β) (a : α) :
    (Except.ok a : Except Failure α).map f = .ok (f a) := rfl

@[simp] theorem error_bind (e : Failure) (f : α → Except Failure β) :
    (Except.error e : Except Failure α) >>= f = .error e := rfl

@[simp] theorem ok_bind (a : α) (f : α → Except Failure β) :
    (Except.ok a : Except Failure α) >>= f = f a := rfl

/-! ### Strings -/

theorem scanString_close (h : scanStringChar cs = .ok (none, rest)) :
    scanString cs = .ok ([], rest) := by
  rw [scanString]
  split <;> simp_all

theorem scanString_char {c : Char} (h : scanStringChar cs = .ok (some c, rest)) :
    scanString cs = (scanString rest).map fun (s, rest) => (c :: s, rest) := by
  rw [scanString]
  split <;> simp_all

theorem scanString_error {e : Failure} (h : scanStringChar cs = .error e) :
    scanString cs = .error e := by
  rw [scanString]
  split <;> simp_all

theorem skipString_close (h : skipStringChar cs = .ok (false, rest)) :
    skipString cs = .ok rest := by
  rw [skipString]
  split <;> simp_all

theorem skipString_char (h : skipStringChar cs = .ok (true, rest)) :
    skipString cs = skipString rest := by
  rw [skipString]
  split <;> simp_all

/-! ### Lists -/

theorem readElements_close {item : Reader α} {first : Bool}
    (h : nextElement first cs = .ok (false, rest)) :
    readElements item first cs = .ok ([], rest.tail) := by
  rw [readElements]
  split <;> simp_all

theorem readElements_item {item : Reader α} {first : Bool}
    (h : nextElement first cs = .ok (true, rest)) :
    readElements item first cs = item.run rest >>= fun (a, rest) =>
      (readElements item false rest).map fun (as, rest) => (a :: as, rest) := by
  rw [readElements]
  split
  · simp_all
  · simp_all
  · next r hr =>
    obtain rfl : r = rest := by simpa using hr.symm.trans h
    split <;> simp_all

/-! ### Objects -/

theorem readMembers_close {R : Record α} {first : Bool} {draft : α} {given : List String}
    (h : nextKey first cs = .ok (false, rest)) :
    R.readMembers first draft given cs = R.finish draft given rest.tail := by
  rw [Record.readMembers]
  split <;> simp_all

theorem readMembers_member {R : Record α} {first : Bool} {draft : α} {given : List String}
    (h : nextKey first cs = .ok (true, rest)) :
    R.readMembers first draft given cs = scanString rest >>= fun (key, rest) =>
      R.readMember (String.ofList key) draft given rest >>= fun ((draft, given), rest) =>
        R.readMembers false draft given rest := by
  rw [Record.readMembers]
  split
  · simp_all
  · simp_all
  · next r hr =>
    obtain rfl : r = rest := by simpa using hr.symm.trans h
    split
    · simp_all
    · split <;> simp_all

/-! ### Lists of fields -/

theorem readFields_item {R : Record α} {f : Field α} {fs : List (Field α)} {first : Bool} {i : Nat}
    {draft : α} (h : nextElement first cs = .ok (true, rest)) :
    R.readFields first i draft (f :: fs) cs = f.reader.run rest >>= fun (set, rest) =>
      R.readFields false (i + 1) (set draft) fs rest := by
  simp only [Record.readFields, h]
  split <;> simp_all

/-! ### Values that are passed over -/

theorem skipOpen_nil : skipOpen false [] cs = .ok cs := by
  rw [skipOpen]; simp

theorem skipOpen_scalar {o : List Bracket} (h : skipScalar (skipBlanks cs) = .ok (.scalar rest)) :
    skipOpen true o cs = skipOpen false o rest := by
  rw [skipOpen.eq_def]
  simp only [↓reduceIte]
  split <;> simp_all

theorem skipOpen_opened {b : Bracket} {o : List Bracket}
    (h : skipScalar (skipBlanks cs) = .ok (.opened b rest)) :
    skipOpen true o cs =
      match skipBlanks rest with
      | [] => failPast [] b.unclosed
      | c :: more =>
        if c = b.closing then skipOpen false o more
        else
          match enterElement b (c :: more) with
          | .error e => .error e
          | .ok rest => skipOpen true (b :: o) rest := by
  rw [skipOpen.eq_def]
  simp only [↓reduceIte]
  split
  · simp_all
  · simp_all
  · next b' r hr =>
    obtain ⟨rfl, rfl⟩ : b' = b ∧ r = rest := by simpa using hr.symm.trans h
    split
    · simp_all
    · next c more hc =>
      simp only [hc]
      split
      · rfl
      · split <;> simp_all

theorem skipOpen_between {b : Bracket} {o : List Bracket} :
    skipOpen false (b :: o) cs =
      match skipBlanks cs with
      | [] => failPast [] b.unclosed
      | c :: more =>
        if c = b.closing then skipOpen false o more
        else if c = ',' then
          match enterElement b more with
          | .error e => .error e
          | .ok rest => skipOpen true (b :: o) rest
        else failPast (c :: more) b.commaExpected := by
  rw [skipOpen.eq_def]
  simp only [Bool.false_eq_true, ↓reduceIte]
  split
  · simp_all
  · next c more hc =>
    simp only [hc]
    split
    · rfl
    · split
      · split <;> simp_all
      · rfl

end ShaperDash.Json
