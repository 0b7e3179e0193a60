import ShaperDash.Elapsed
import ShaperDash.Proofs.Number.Digits

/-!
# Reading the session clock

A session clock is a `ClockFace`: hours without superfluous zeros, and two digits each for minutes
and seconds below sixty.  Faces and numbers of seconds belong together one to one, and a face is
read off its text at the colons, so the text of a duration tells its whole seconds and no more.

* `ClockFace.ofSeconds_total`, `ClockFace.total_ofSeconds` : each number of seconds has one face.
* `ClockFace.text_inj` : a face is read off its text.
* `formatElapsed_faithful` : **the clock of a duration shows its whole seconds**.
-/

namespace ShaperDash

theorem wholeSeconds_add (seconds : Nat) (n : Fin 1000000000) :
    wholeSeconds (seconds * 1000000000 + n) = seconds := by
  unfold wholeSeconds
  omega

/-! ### Faces -/

/-- Two digits for a number below sixty. -/
structure IsSixtieth (cs : List Char) : Prop where
  digits : IsDigits cs
  length : cs.length = 2
  lt : Nat.ofDigitChars 10 cs 0 < 60

/-- The digits that a session clock can show. -/
@[ext]
structure ClockFace where
  hours : List Char
  minutes : List Char
  seconds : List Char
  isWholeNumeral_hours : IsWholeNumeral hours
  isSixtieth_minutes : IsSixtieth minutes
  isSixtieth_seconds : IsSixtieth seconds

theorem isSixtieth_zeroPadded {n : Nat} (hn : n < 60) : IsSixtieth (zeroPadded 2 n) where
  digits := isDigits_zeroPadded 2 n
  length := length_zeroPadded (by decide) (by omega)
  lt := by rwa [ofDigitChars_zeroPadded]

theorem IsSixtieth.zeroPadded_eq {cs : List Char} (h : IsSixtieth cs) :
    zeroPadded 2 (Nat.ofDigitChars 10 cs 0) = cs := by
  rw [← h.length, zeroPadded_ofDigitChars h.digits]

namespace ClockFace

/-- The text of the face. -/
def text (f : ClockFace) : String :=
  String.ofList (f.hours ++ ':' :: (f.minutes ++ ':' :: f.seconds))

/-- The seconds that the face shows. -/
def total (f : ClockFace) : Nat :=
  Nat.ofDigitChars 10 f.hours 0 * 3600 + Nat.ofDigitChars 10 f.minutes 0 * 60 +
    Nat.ofDigitChars 10 f.seconds 0

/-- The face that shows so many seconds. -/
def ofSeconds (n : Nat) : ClockFace where
  hours := digitsOf (n / 3600)
  minutes := zeroPadded 2 (n % 3600 / 60)
  seconds := zeroPadded 2 (n % 60)
  isWholeNumeral_hours := isWholeNumeral_digitsOf _
  isSixtieth_minutes := isSixtieth_zeroPadded (by omega)
  isSixtieth_seconds := isSixtieth_zeroPadded (by omega)

variable {f g : ClockFace} {n : Nat}

theorem text_ofSeconds (n : Nat) : (ofSeconds n).text = formatElapsed n := rfl

theorem total_ofSeconds (n : Nat) : (ofSeconds n).total = n := by
  simp only [total, ofSeconds, ofDigitChars_digitsOf, ofDigitChars_zeroPadded]
  omega

/-- A face is the one that shows its seconds. -/
theorem ofSeconds_total (f : ClockFace) : ofSeconds f.total = f := by
  have hminutes := f.isSixtieth_minutes.lt
  have hseconds := f.isSixtieth_seconds.lt
  -- no part is large enough to carry into the one before it
  have hdiv : f.total / 3600 = Nat.ofDigitChars 10 f.hours 0 := by
    unfold total
    omega
  have hmod : f.total % 3600 / 60 = Nat.ofDigitChars 10 f.minutes 0 := by
    unfold total
    omega
  have hrest : f.total % 60 = Nat.ofDigitChars 10 f.seconds 0 := by
    unfold total
    omega
  ext1
  · simp only [ofSeconds, hdiv, f.isWholeNumeral_hours.digitsOf_eq]
  · simp only [ofSeconds, hmod, f.isSixtieth_minutes.zeroPadded_eq]
  · simp only [ofSeconds, hrest, f.isSixtieth_seconds.zeroPadded_eq]

theorem colon_not_mem {cs : List Char} (h : IsDigits cs) : ':' ∉ cs := fun hc =>
  absurd (h.2 ':' hc) (by decide)

/-- The parts of a face stand between the colons of its text. -/
theorem splitOn_text (f : ClockFace) :
    f.text.toList.splitOn ':' = [f.hours, f.minutes, f.seconds] := by
  have hhours := colon_not_mem f.isWholeNumeral_hours.digits
  have hminutes := colon_not_mem f.isSixtieth_minutes.digits
  have hseconds := colon_not_mem f.isSixtieth_seconds.digits
  rw [text, String.toList_ofList, List.splitOn_append_cons_self_of_not_mem hhours,
    List.splitOn_append_cons_self_of_not_mem hminutes, List.splitOn_eq_singleton hseconds]

/-- A face is read off its text. -/
theorem text_inj : f.text = g.text ↔ f = g := by
  constructor
  · intro h
    have hparts := f.splitOn_text
    rw [h, g.splitOn_text] at hparts
    obtain ⟨hhours, hminutes, hseconds⟩ : g.hours = f.hours ∧ g.minutes = f.minutes ∧
        g.seconds = f.seconds := by simpa using hparts
    exact ClockFace.ext hhours.symm hminutes.symm hseconds.symm
  · exact congrArg text

end ClockFace

theorem formatElapsed_eq_text_iff {n : Nat} {f : ClockFace} :
    formatElapsed n = f.text ↔ f.total = n := by
  rw [← ClockFace.text_ofSeconds, ClockFace.text_inj]
  constructor
  · rintro rfl
    exact ClockFace.total_ofSeconds n
  · rintro rfl
    exact ClockFace.ofSeconds_total f

example : formatElapsed (wholeSeconds 3723999999999) = "1:02:03" := by decide +kernel

theorem formatElapsed_inj {n n' : Nat} : formatElapsed n = formatElapsed n' ↔ n = n' := by
  rw [← ClockFace.text_ofSeconds n', formatElapsed_eq_text_iff, ClockFace.total_ofSeconds, eq_comm]

/-- **The clock of a duration shows its whole seconds.**  The text of every duration is a clock
face, hours without superfluous zeros and two digits each for minutes and seconds below sixty, that
shows the whole seconds of the duration, and every such face is the text of the durations whose
whole seconds it shows.  So two durations have the same text exactly if they are the same but for
the nanoseconds behind the seconds. -/
theorem formatElapsed_faithful :
    (∀ t : Nat, ∃ f : ClockFace, formatElapsed (wholeSeconds t) = f.text ∧
      f.total = wholeSeconds t) ∧
    (∀ (t : Nat) (f : ClockFace),
      formatElapsed (wholeSeconds t) = f.text ↔ f.total = wholeSeconds t) ∧
    ∀ (seconds seconds' : UInt64) (n n' : Fin 1000000000),
      formatElapsed (wholeSeconds (seconds.toNat * 1000000000 + n)) =
        formatElapsed (wholeSeconds (seconds'.toNat * 1000000000 + n')) ↔ seconds = seconds' := by
  refine ⟨fun t => ?_, fun t f => formatElapsed_eq_text_iff, fun seconds seconds' n n' => ?_⟩
  · exact ⟨_, rfl, ClockFace.total_ofSeconds (wholeSeconds t)⟩
  · rw [wholeSeconds_add, wholeSeconds_add, formatElapsed_inj, UInt64.toNat_inj]

end ShaperDash
