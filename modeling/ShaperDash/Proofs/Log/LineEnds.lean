import Mathlib.Tactic.SplitIfs
import ShaperDash.Proofs.Json.Causes
import ShaperDash.Proofs.Log.Lines

/-!
# Line ends in the log

Which texts can carry a line end into the log.  Numbers have none and quoted texts have it written
as an escape; paths, and names that a document gives where a keyword was wanted, are repeated as
they are.

* `not_mem_quoted` : a quoted text has no line end.
* `Json.Cause.lineEnds_message` : a fault has the line ends of the name that it repeats.
* `LogEvent.verbatim` : the texts that an event repeats as they are.
* `LogEvent.lineEnds_text` : **an event has the line ends of these texts** and no other.
* `LogEvent.isLine_iff` : the events that are one line of the log.
-/

namespace ShaperDash

/-- How many line ends a text has. -/
def lineEnds (s : String) : Nat := s.toList.count '\n'

/-- The text has no line end. -/
abbrev Unbroken (s : String) : Prop := lineEnds s = 0

@[simp] theorem lineEnds_append (a b : String) : lineEnds (a ++ b) = lineEnds a + lineEnds b := by
  simp [lineEnds]

theorem lineEnds_eq_zero_iff {s : String} : lineEnds s = 0 ↔ '\n' ∉ s.toList := List.count_eq_zero

theorem lineEnds_intercalate {sep : String} {l : List String} (hsep : Unbroken sep)
    (h : ∀ w ∈ l, Unbroken w) : Unbroken (sep.intercalate l) := by
  induction l with
  | nil => rfl
  | cons w l ih =>
    obtain ⟨hw, hl⟩ := List.forall_mem_cons.1 h
    cases l with
    | nil => simpa using hw
    | cons w' l => simp [Unbroken, String.intercalate_cons_cons, hw, hsep, ih hl]

theorem unbroken_join_iff {l : List String} :
    Unbroken (String.join l) ↔ ∀ w ∈ l, Unbroken w := by
  induction l with
  | nil => exact iff_of_true rfl (List.forall_mem_nil _)
  | cons w l ih =>
    rw [List.forall_mem_cons, ← ih, String.join_cons, Unbroken, lineEnds_append]
    exact Nat.add_eq_zero_iff

/-! ### Numbers -/

theorem not_mem_toDigits {b : Nat} (hb : 1 < b) (n : Nat) : '\n' ∉ Nat.toDigits b n := by
  induction n using Nat.strongRecOn with
  | ind n ih =>
    by_cases hn : n < b
    · simp [Nat.toDigits_of_lt_base hn]
    · have hfront := ih (n / b) (Nat.div_lt_self (by omega) hb)
      simp [Nat.toDigits_of_base_le hb (Nat.le_of_not_lt hn), hfront]

theorem not_mem_digitsOf (n : Nat) : '\n' ∉ digitsOf n := not_mem_toDigits (by decide) n

theorem not_mem_toString_nat (n : Nat) : '\n' ∉ (toString n).toList := by
  rw [show toString n = n.repr from rfl, Nat.toList_repr]
  exact not_mem_toDigits (by decide) n

theorem lineEnds_toString_word (n : UInt64) : lineEnds (toString n) = 0 :=
  lineEnds_eq_zero_iff.2 (not_mem_toString_nat n.toNat)

theorem not_mem_toString_int (i : Int) : '\n' ∉ (toString i).toList := by
  cases i with
  | ofNat n => exact not_mem_toString_nat n
  | negSucc n =>
    rw [show toString (Int.negSucc n) = "-" ++ toString (n + 1) from rfl]
    simpa using not_mem_toString_nat (n + 1)

theorem not_mem_sign (b : Bool) : '\n' ∉ Datum.sign b := by cases b <;> decide

namespace Decimal

variable (d : Decimal)

theorem not_mem_significant : '\n' ∉ d.significant := by
  intro h
  have := (List.dropWhile_sublist _).subset (List.mem_reverse.1 h)
  exact not_mem_digitsOf _ (List.mem_reverse.1 this)

theorem not_mem_positional : '\n' ∉ d.positional := by
  have hds := d.not_mem_significant
  have htake : '\n' ∉ d.significant.take d.pointPlace.toNat := fun h => hds (List.mem_of_mem_take h)
  have hdrop : '\n' ∉ d.significant.drop d.pointPlace.toNat := fun h => hds (List.mem_of_mem_drop h)
  unfold positional
  dsimp only
  split_ifs <;> simp [hds, htake, hdrop, List.mem_replicate]

theorem not_mem_marked : '\n' ∉ d.marked := by
  have hds := d.not_mem_significant
  have hpos := d.not_mem_positional
  have hpower := not_mem_digitsOf (d.pointPlace - 1).natAbs
  unfold marked
  dsimp only
  split_ifs
  · decide
  · simpa using hpos
  · exact hpos
  all_goals
    split <;> simp_all

end Decimal

theorem Datum.not_mem_marked (d : Datum) : '\n' ∉ d.marked.toList := by
  cases d with
  | nan => decide
  | infinite s => cases s <;> decide
  | finite s m e => simp [Datum.marked, not_mem_sign, Decimal.not_mem_marked]

/-! ### Quoted texts -/

theorem not_mem_codeEscape (c : Char) : '\n' ∉ codeEscape c := by
  simp [codeEscape, not_mem_toDigits (b := 16) (by decide)]

theorem not_mem_quotedChar (apostrophe : Bool) (c : Char) : '\n' ∉ quotedChar apostrophe c := by
  by_cases hc : c = '\n'
  · simp [hc, quotedChar]
  · have hcode := not_mem_codeEscape c
    unfold quotedChar
    repeat' split
    all_goals simp [hcode, Ne.symm hc]

/-- A quoted text has no line end. -/
theorem not_mem_quoted (apostrophe : Bool) (cs : List Char) : '\n' ∉ quoted apostrophe cs := by
  simp [quoted, not_mem_quotedChar]

theorem Config.lineEnds_describe (c : Config) : lineEnds c.describe = 0 := by
  have hpath : lineEnds (describePath c.statusFile) = 0 := by
    cases c.statusFile with
    | none => rfl
    | some p =>
      have hp : lineEnds (String.ofList (quoted true p.toList)) = 0 := by
        rw [lineEnds_eq_zero_iff, String.toList_ofList]
        exact not_mem_quoted true p.toList
      unfold describePath
      simp only [lineEnds_append, hp]
      rfl
  have hname : lineEnds c.palette.name = 0 := by cases c.palette <;> rfl
  unfold describe
  simp only [lineEnds_append, lineEnds_toString_word, hpath, hname]
  rfl

/-! ### Faults -/

namespace Json

/-- The text of the document that a fault repeats as it stands there. -/
def Cause.verbatim : Cause → List String
  | .unknownVariant name _ => [name]
  | _ => []

theorem Cause.verbatim_eq_nil {c : Cause} {P : String → Prop} (h : c.Words P fun _ => False) :
    c.verbatim = [] := by
  cases c with
  | unknownVariant name known => exact h.1.elim
  | _ => rfl

theorem lineEnds_ticked (s : String) : lineEnds (ticked s) = lineEnds s := by
  simp [lineEnds, ticked]

theorem Head.lineEnds_describe (h : Head) : lineEnds h.describe = 0 := by
  cases h with
  | boolean b =>
    have hb : lineEnds (if b then "true" else "false") = 0 := by cases b <;> rfl
    unfold describe
    simp only [lineEnds_append, lineEnds_ticked, hb]
    rfl
  | integer i =>
    have hi := lineEnds_eq_zero_iff.2 (not_mem_toString_int i)
    unfold describe
    simp only [lineEnds_append, lineEnds_ticked, hi]
    rfl
  | floating d =>
    have hd := lineEnds_eq_zero_iff.2 d.not_mem_marked
    unfold describe
    simp only [lineEnds_append, lineEnds_ticked, hd]
    rfl
  | text s =>
    have hs : lineEnds (String.ofList (quoted false s.toList)) = 0 := by
      rw [lineEnds_eq_zero_iff, String.toList_ofList]
      exact not_mem_quoted false s.toList
    unfold describe
    simp only [lineEnds_append, hs]
    rfl
  | _ => rfl

/-- A fault has the line ends of the name that it repeats, if the words of the reader have none. -/
theorem Cause.lineEnds_message {c : Cause} {Q : String → Prop}
    (h : c.Words Unbroken Q) :
    lineEnds c.message = lineEnds (String.join c.verbatim) := by
  unfold message
  cases c with
  | wrongType found want =>
    have hwant : lineEnds want = 0 := h
    simp only [lineEnds_append, found.lineEnds_describe, hwant]
    rfl
  | wrongValue found want =>
    have hwant : lineEnds want = 0 := h
    have hfound := lineEnds_eq_zero_iff.2 (not_mem_toString_int found)
    simp only [lineEnds_append, lineEnds_ticked, hfound, hwant]
    rfl
  | wrongLength length want =>
    have hwant : lineEnds want = 0 := h
    have hlength := lineEnds_eq_zero_iff.2 (not_mem_toString_nat length)
    simp only [lineEnds_append, hlength, hwant]
    rfl
  | missingField name =>
    have hname : lineEnds name = 0 := h
    simp only [lineEnds_append, lineEnds_ticked, hname]
    rfl
  | duplicateField name =>
    have hname : lineEnds name = 0 := h
    simp only [lineEnds_append, lineEnds_ticked, hname]
    rfl
  | unknownVariant name known =>
    have hknown : lineEnds (" or ".intercalate (known.map ticked)) = 0 := by
      refine lineEnds_intercalate rfl fun w hw => ?_
      obtain ⟨k, hk, rfl⟩ := List.mem_map.1 hw
      exact (lineEnds_ticked k).trans (h.2 k hk)
    simp only [lineEnds_append, lineEnds_ticked, hknown]
    simp [verbatim, lineEnds]
  | _ => rfl

theorem DecodeError.lineEnds_message {e : DecodeError} {Q : String → Prop}
    (h : e.cause.Words Unbroken Q) :
    lineEnds e.message = lineEnds (String.join e.cause.verbatim) := by
  have hline := lineEnds_eq_zero_iff.2 (not_mem_toString_nat e.line)
  have hcolumn := lineEnds_eq_zero_iff.2 (not_mem_toString_nat e.column)
  unfold message
  simp only [lineEnds_append, Cause.lineEnds_message h, hline, hcolumn]
  simp [lineEnds]

end Json

/-! ### Events -/

/-- The texts that an error repeats as they are. -/
def LoadError.verbatim : LoadError → List String
  | .unreadable path _ => [path]
  | .malformed path fault => path :: fault.cause.verbatim
  | .invalid _ => []

/-- The words of the fault of a document, if that is the error, have the properties. -/
def LoadError.Words (P Q : String → Prop) : LoadError → Prop
  | .malformed _ fault => fault.cause.Words P Q
  | _ => True

theorem LoadError.lineEnds_message {e : LoadError} {Q : String → Prop}
    (h : e.Words Unbroken Q) :
    lineEnds e.message = lineEnds (String.join e.verbatim) := by
  cases e with
  | unreadable path fault =>
    have hfault : lineEnds fault.message = 0 := by cases fault <;> rfl
    unfold message
    simp only [lineEnds_append, hfault]
    simp [verbatim, lineEnds]
  | malformed path fault =>
    unfold message
    simp only [lineEnds_append, Json.DecodeError.lineEnds_message h]
    simp [verbatim, lineEnds]
  | invalid fault =>
    have hfault : lineEnds fault.message = 0 := by cases fault <;> rfl
    unfold message
    simp only [lineEnds_append, hfault]
    rfl

namespace LogEvent

/-- The texts that an event repeats as they are. -/
def verbatim : LogEvent → List String
  | configRejected e => e.verbatim
  | pollFailed e => e.verbatim
  | statusMissing path => [path]
  | _ => []

/-- The words of the fault of a document, if the event tells of one, have the properties. -/
def Words (P Q : String → Prop) : LogEvent → Prop
  | configRejected e => e.Words P Q
  | pollFailed e => e.Words P Q
  | _ => True

/-- The escapes of a message take no line end away and bring none. -/
theorem count_messageChar (c : Char) : (messageChar c).count '\n' = [c].count '\n' := by
  by_cases hc : c = '\n'
  · subst hc
    decide
  · have hcode := not_mem_codeEscape c
    unfold messageChar
    split_ifs <;> simp [List.count_eq_zero, hcode, hc]

theorem lineEnds_guarded (s : String) : lineEnds (guarded s) = lineEnds s := by
  rw [lineEnds, guarded, String.toList_ofList, lineEnds]
  induction s.toList with
  | nil => rfl
  | cons c cs ih =>
    rw [List.flatMap_cons, List.count_append, count_messageChar, ih, ← List.count_append]
    rfl

/-- **An event has the line ends of the texts that it repeats** and no other. -/
theorem lineEnds_text {e : LogEvent} {Q : String → Prop}
    (h : e.Words Unbroken Q) :
    lineEnds e.text = lineEnds (String.join e.verbatim) := by
  rw [text, lineEnds_append, lineEnds_guarded]
  unfold message values
  cases e with
  | configRejected e =>
    have hmessage : lineEnds e.message = lineEnds (String.join e.verbatim) :=
      LoadError.lineEnds_message h
    simp only [lineEnds_append, hmessage]
    rfl
  | pollFailed e =>
    have hmessage : lineEnds e.message = lineEnds (String.join e.verbatim) :=
      LoadError.lineEnds_message h
    simp only [lineEnds_append, hmessage]
    simp [verbatim, lineEnds]
  | starting c =>
    simp only [List.map_cons, List.map_nil, String.join_cons, lineEnds_append, c.lineEnds_describe]
    rfl
  | throughputSampled t =>
    simp only [List.map_cons, List.map_nil, String.join_cons, lineEnds_append,
      lineEnds_toString_word]
    rfl
  | statusMissing path => simp [verbatim, lineEnds]
  | inputWatched place =>
    have hplace := lineEnds_eq_zero_iff.2 (not_mem_toString_nat place)
    simp only [lineEnds_append, hplace]
    rfl
  | paletteToggled p => cases p <;> rfl
  | reloadRequired => rfl
  | exiting => rfl

theorem not_mem_text {e : LogEvent} {Q : String → Prop} (h : e.Words Unbroken Q)
    (hv : ∀ w ∈ e.verbatim, Unbroken w) : '\n' ∉ e.text.toList := by
  rw [← lineEnds_eq_zero_iff, lineEnds_text h]
  exact unbroken_join_iff.2 hv

/-- The line of an event has one line end, and those of the texts that the event repeats. -/
theorem lineEnds_line {e : LogEvent} {Q : String → Prop} {stamp : String} (hs : Unbroken stamp)
    (h : e.Words Unbroken Q) :
    lineEnds (e.line stamp) = 1 + lineEnds (String.join e.verbatim) := by
  have hname : lineEnds e.level.name = 0 := by cases e.level <;> rfl
  have hpad : ∀ n, lineEnds (String.ofList (List.replicate n ' ')) = 0 := fun n => by
    simp [lineEnds, List.count_replicate]
  unfold line
  simp only [lineEnds_append, hs, hname, hpad, lineEnds_text h]
  simp [lineEnds, Nat.add_comm]

/-- An event is one line exactly if no text that it repeats has a line end. -/
theorem isLine_iff {e : LogEvent} {Q : String → Prop} {stamp : String} (hs : Unbroken stamp)
    (h : e.Words Unbroken Q) :
    (∃ l, Unbroken l ∧ e.line stamp = l ++ "\n") ↔ ∀ w ∈ e.verbatim, Unbroken w := by
  have hend : lineEnds "\n" = 1 := rfl
  have hcount := lineEnds_line hs h
  constructor
  · rintro ⟨l, hl, hline⟩ w hw
    rw [hline, lineEnds_append, hl, hend] at hcount
    have hjoin : Unbroken (String.join e.verbatim) := by
      show lineEnds (String.join e.verbatim) = 0
      omega
    exact unbroken_join_iff.1 hjoin w hw
  · intro hall
    have hline := not_mem_lineText (lineEnds_eq_zero_iff.1 hs) (not_mem_text h hall)
    exact ⟨e.lineText stamp, lineEnds_eq_zero_iff.2 hline, e.line_eq stamp⟩

end LogEvent

end ShaperDash
