import Mathlib.Tactic.IntervalCases
import Mathlib.Tactic.SplitIfs
import ShaperDash.Log.Pattern
import ShaperDash.Text.Quoted

/-!
# Reading quoted texts

A quoted text is read back character by character, without the tables that say which characters are
escaped: what stands behind a backslash tells how far the escape goes and what it stands for.  No
character is written so that it begins with a quotation mark, so the closing mark is the first mark
that is read as none.

* `hexValue?_toDigits` : hexadecimal digits are read back.
* `unescape?_quotedChar` : a character is read back, however it was written.
* `unquote?_quoted` : **a quoted text is read back**, whatever follows it.
-/

namespace ShaperDash

variable {c : Char} {cs rest : List Char}

/-! ### Reading -/

/-- The characters that stand behind a backslash for another one or for themselves. -/
def escapeMarks : List (Char × Char) :=
  [('0', '\x00'), ('t', '\t'), ('r', '\r'), ('n', '\n'), ('\\', '\\'), ('"', '"'), ('\'', '\'')]

/-- The first character of the inside of a quoted text, and what follows it; there is none at a
quotation mark. -/
def unescape? : List Char → Option (Char × List Char)
  | '\\' :: 'u' :: '{' :: cs =>
    (hexValue? (cs.takeWhile (· ≠ '}'))).map fun n =>
      (Char.ofNat n, (cs.dropWhile (· ≠ '}')).drop 1)
  | '\\' :: mark :: cs => (escapeMarks.lookup mark).map fun c => (c, cs)
  | c :: cs => if c = '\\' ∨ c = '"' then none else some (c, cs)
  | [] => none

theorem unescape?_length (h : unescape? cs = some (c, rest)) : rest.length < cs.length := by
  unfold unescape? at h
  split at h
  · next cs =>
    obtain ⟨n, -, heq⟩ := Option.map_eq_some_iff.1 h
    obtain ⟨-, rfl⟩ := Prod.mk.inj heq
    have hdrop := (List.dropWhile_suffix (l := cs) (· ≠ '}')).length_le
    simp only [List.length_drop, List.length_cons]
    omega
  · next mark cs _ =>
    obtain ⟨d, -, heq⟩ := Option.map_eq_some_iff.1 h
    obtain ⟨-, rfl⟩ := Prod.mk.inj heq
    simp only [List.length_cons]
    omega
  · next c cs _ _ =>
    split at h
    · cases h
    · cases h
      simp
  · cases h

/-- The inside of a quoted text up to the closing mark, and what follows that. -/
def unquoteInside? (cs : List Char) : Option (List Char × List Char) :=
  match _h : unescape? cs with
  | some (c, rest) => (unquoteInside? rest).map fun (text, after) => (c :: text, after)
  | none => if cs.head? = some '"' then some ([], cs.drop 1) else none
termination_by cs.length
decreasing_by exact unescape?_length _h

/-- The text that is quoted at the beginning, and what follows the closing mark. -/
def unquote? : List Char → Option (List Char × List Char)
  | '"' :: cs => unquoteInside? cs
  | _ => none

/-! ### Characters -/

theorem exists_digitChar_of_mem_toDigits {b n : Nat} (hb : 1 < b) (h : c ∈ Nat.toDigits b n) :
    ∃ d < b, c = d.digitChar := by
  induction n using Nat.strongRecOn with
  | ind n ih =>
    by_cases hn : n < b
    · rw [Nat.toDigits_of_lt_base hn, List.mem_singleton] at h
      exact ⟨n, hn, h⟩
    · have hge := Nat.le_of_not_lt hn
      rw [Nat.toDigits_of_base_le hb hge, List.mem_append] at h
      obtain h | h := h
      · exact ih (n / b) (Nat.div_lt_self (by omega) hb) h
      · exact ⟨n % b, Nat.mod_lt n (by omega), List.mem_singleton.1 h⟩

/-- The last hexadecimal digit counts once, those before it sixteen times. -/
theorem hexValue?_append_digitChar {d : Nat} (hd : d < 16) (cs : List Char) :
    hexValue? (cs ++ [d.digitChar]) = (hexValue? cs).map fun n => n * 16 + d := by
  unfold hexValue?
  rw [List.foldlM_append, Option.bind_eq_bind, Option.map_eq_bind]
  congr 1
  funext n
  interval_cases d <;> rfl

/-- Hexadecimal digits are read back. -/
theorem hexValue?_toDigits (n : Nat) : hexValue? (Nat.toDigits 16 n) = some n := by
  induction n using Nat.strongRecOn with
  | ind n ih =>
    by_cases hn : n < 16
    · rw [Nat.toDigits_of_lt_base hn]
      exact (hexValue?_append_digitChar hn []).trans (by simp [hexValue?])
    · have hfront := ih (n / 16) (by omega)
      rw [Nat.toDigits_of_base_le (by decide) (Nat.le_of_not_lt hn),
        hexValue?_append_digitChar (Nat.mod_lt n (by decide)), hfront, Option.map_some,
        Nat.div_add_mod']

theorem ne_brace_of_mem_toDigits {n : Nat} (h : c ∈ Nat.toDigits 16 n) : c ≠ '}' := by
  obtain ⟨d, -, rfl⟩ := exists_digitChar_of_mem_toDigits (by decide) h
  exact Nat.digitChar_ne '}' (by decide)

theorem unescape?_codeEscape (c : Char) (rest : List Char) :
    unescape? (codeEscape c ++ rest) = some (c, rest) := by
  have hdigits : ∀ d ∈ Nat.toDigits 16 c.toNat, decide (d ≠ '}') = true :=
    fun d hd => decide_eq_true (ne_brace_of_mem_toDigits hd)
  have htake : (Nat.toDigits 16 c.toNat ++ '}' :: rest).takeWhile (· ≠ '}') =
      Nat.toDigits 16 c.toNat := by
    rw [List.takeWhile_append_of_pos hdigits]
    simp
  have hdrop : (Nat.toDigits 16 c.toNat ++ '}' :: rest).dropWhile (· ≠ '}') = '}' :: rest := by
    rw [List.dropWhile_append_of_pos hdigits]
    simp
  have hescape : codeEscape c ++ rest =
      '\\' :: 'u' :: '{' :: (Nat.toDigits 16 c.toNat ++ '}' :: rest) := by simp [codeEscape]
  rw [hescape, unescape?, htake, hdrop, hexValue?_toDigits, Option.map_some, Char.ofNat_toNat]
  rfl

theorem unescape?_of_plain (hback : c ≠ '\\') (hmark : c ≠ '"') :
    unescape? (c :: rest) = some (c, rest) := by
  rw [unescape?]
  · simp [hback, hmark]
  · exact fun _ heq => absurd heq hback
  · exact fun _ _ heq => absurd heq hback

/-- A character is read back, however it was written. -/
theorem unescape?_quotedChar (apostrophe : Bool) (c : Char) (rest : List Char) :
    unescape? (quotedChar apostrophe c ++ rest) = some (c, rest) := by
  unfold quotedChar
  split_ifs with hzero htab hreturn hend hback hmark hquote
  · subst hzero; rfl
  · subst htab; rfl
  · subst hreturn; rfl
  · subst hend; rfl
  · subst hback; rfl
  · subst hmark; rfl
  · obtain ⟨rfl, -⟩ : c = '\'' ∧ apostrophe = true := by simpa using hquote
    rfl
  · exact unescape?_codeEscape c rest
  · exact unescape?_of_plain hback hmark
  · exact unescape?_codeEscape c rest

/-! ### Texts -/

theorem unquoteInside?_of_some (h : unescape? cs = some (c, rest)) :
    unquoteInside? cs = (unquoteInside? rest).map fun (text, after) => (c :: text, after) := by
  rw [unquoteInside?]
  split
  · next heq => cases h.symm.trans heq; rfl
  · next heq => cases h.symm.trans heq

/-- A quoted text is read back, whatever follows it. -/
theorem unquote?_quoted (apostrophe : Bool) (cs rest : List Char) :
    unquote? (quoted apostrophe cs ++ rest) = some (cs, rest) := by
  have hinside : ∀ cs, unquoteInside? (cs.flatMap (quotedChar apostrophe) ++ '"' :: rest) =
      some (cs, rest) := by
    intro cs
    induction cs with
    | nil => rw [unquoteInside?]; rfl
    | cons c cs ih =>
      rw [List.flatMap_cons, List.append_assoc,
        unquoteInside?_of_some (unescape?_quotedChar apostrophe c _), ih]
      rfl
  simpa [quoted, unquote?] using hinside cs

end ShaperDash
