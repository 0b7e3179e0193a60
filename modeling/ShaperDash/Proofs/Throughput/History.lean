import Mathlib.Data.List.DropRight
import ShaperDash.Throughput

/-!
# The newest samples

A history holds two lists that are cut on their own, one for each direction.  They stay in step, so
that a history is a list of samples (`History.ofSamples`): pushing a sample puts it behind the
others and keeps the newest ones, as many as the limit allows.  A new limit cuts nothing until the
next push.

* `History.push_ofSamples` : one push.
* `History.foldl_push` : many pushes keep the newest of all samples, as one cut at the end would.
* `History.newest_samples_kept` : **whatever the limits are on the way, the history holds the newest
  samples**: no run of pushes and new limits loses, doubles or moves one of them, or brings back one
  that was dropped.
-/

namespace ShaperDash

namespace History

/-! ### Cutting a list from the left -/

section

variable {α : Type} {xs ys : List α} {n : Nat}

theorem length_rtake : (xs.rtake n).length = min n xs.length := by
  rw [List.rtake, List.length_drop]
  omega

theorem rtake_suffix : xs.rtake n <:+ xs := List.drop_suffix ..

theorem rtake_of_length_le (h : xs.length ≤ n) : xs.rtake n = xs := by
  rw [List.rtake, Nat.sub_eq_zero_of_le h, List.drop_zero]

/-- A cut that leaves anything leaves the last element. -/
theorem getLast?_rtake (hn : 0 < n) : (xs.rtake n).getLast? = xs.getLast? := by
  rw [List.rtake, List.getLast?_drop]
  split
  · next h =>
    have hnil : xs = [] := List.eq_nil_of_length_eq_zero (by omega)
    rw [hnil, List.getLast?_nil]
  · rfl

/-- What a cut dropped would not have stayed later either. -/
theorem rtake_rtake_append : (xs.rtake n ++ ys).rtake n = (xs ++ ys).rtake n := by
  simp only [List.rtake_eq_reverse_take_reverse, List.reverse_append, List.reverse_reverse,
    List.take_append, List.take_take, List.length_reverse]
  rw [Nat.min_eq_left (Nat.sub_le n ys.length)]

end

/-! ### Histories as lists of samples -/

/-- The samples of a history, oldest first. -/
def samples (h : History) : List Traffic := List.zipWith Traffic.mk h.download h.upload

/-- The history that holds some samples. -/
def ofSamples (limit : Nat) (xs : List Traffic) : History := ⟨xs.map (·.down), xs.map (·.up), limit⟩

variable {limit : Nat} {xs : List Traffic}

theorem samples_ofSamples : (ofSamples limit xs).samples = xs := by
  induction xs with
  | nil => rfl
  | cons x xs ih => exact congrArg (x :: ·) ih

theorem ofLimit_eq : ofLimit limit = ofSamples limit (List.replicate limit ⟨0, 0⟩) := by
  simp [ofLimit, ofSamples]

theorem keepLast_map (f : Traffic → UInt64) :
    keepLast limit (xs.map f) = (xs.rtake limit).map f := by
  simp [keepLast, List.rtake, List.map_drop]

/-- Both directions are cut at the same place, as they are equally long. -/
theorem push_ofSamples (t : Traffic) :
    (ofSamples limit xs).push t = ofSamples limit ((xs ++ [t]).rtake limit) := by
  simp [push, ofSamples, ← keepLast_map]

/-- Cutting at every push keeps what one cut at the end would. -/
theorem foldl_push (h : xs.length ≤ limit) (ts : List Traffic) :
    ts.foldl push (ofSamples limit xs) = ofSamples limit ((xs ++ ts).rtake limit) := by
  induction ts generalizing xs with
  | nil => rw [List.foldl_nil, List.append_nil, rtake_of_length_le h]
  | cons t ts ih =>
    have hcut : ((xs ++ [t]).rtake limit).length ≤ limit := by
      rw [length_rtake]
      exact Nat.min_le_left ..
    rw [List.foldl_cons, push_ofSamples, ih hcut, rtake_rtake_append, List.append_assoc,
      List.singleton_append]

/-! ### Pushes and new limits -/

/-- What can happen to a history. -/
inductive Change
  | push (t : Traffic)
  | resize (limit : Nat)

/-- The sample that a change brings, if it brings one. -/
def Change.sample? : Change → Option Traffic
  | .push t => some t
  | .resize _ => none

/-- The samples that some changes bring. -/
def brought (changes : List Change) : List Traffic := changes.filterMap Change.sample?

/-- The history after a change. -/
def change (h : History) : Change → History
  | .push t => h.push t
  | .resize limit => { h with limit := limit }

/-- The history after some changes. -/
def changed (h : History) (changes : List Change) : History := changes.foldl change h

/-- One change keeps the newest samples, whatever limit it leaves. -/
theorem change_ofSamples (limit : Nat) (xs : List Traffic) (c : Change) :
    ∃ limit' kept, kept <:+ xs ++ c.sample?.toList ∧
      (ofSamples limit xs).change c = ofSamples limit' kept := by
  cases c with
  | push t => exact ⟨limit, _, rtake_suffix, push_ofSamples t⟩
  | resize limit' => exact ⟨limit', xs, by simp [Change.sample?], rfl⟩

/-- So do many. -/
theorem changed_ofSamples (limit : Nat) (xs : List Traffic) (changes : List Change) :
    ∃ limit' kept, kept <:+ xs ++ brought changes ∧
      (ofSamples limit xs).changed changes = ofSamples limit' kept := by
  induction changes generalizing limit xs with
  | nil => exact ⟨limit, xs, by simp [brought], rfl⟩
  | cons c cs ih =>
    obtain ⟨limit₁, kept₁, ⟨dropped, hdropped⟩, hchange⟩ :=
      change_ofSamples limit xs c
    obtain ⟨limit₂, kept₂, hkept, hchanged⟩ := ih limit₁ kept₁
    refine ⟨limit₂, kept₂, hkept.trans ⟨dropped, ?_⟩, by rw [← hchanged, ← hchange]; rfl⟩
    -- the samples of `cs` come behind what `c` has kept
    have hbrought : brought (c :: cs) = c.sample?.toList ++ brought cs := by cases c <;> rfl
    rw [hbrought, ← List.append_assoc, ← List.append_assoc, hdropped]

/-- **The history holds the newest samples.**  Start with any limit and let any samples come and any
limits be set, in any order.  Then

* both directions hold equally many samples, and together the end of all that came, with the zeros
  of the start before them;
* one more push leaves one sample more, but no more than the limit allows;
* as long as no limit is set there are always as many as at the start;
* whatever happens next, what is held then is the end of what is held now and what comes: nothing
  that was dropped comes back. -/
theorem newest_samples_kept (m : Nat) (changes : List Change) :
    let h := (ofLimit m).changed changes
    (h.download.length = h.upload.length ∧
      h.samples <:+ List.replicate m ⟨0, 0⟩ ++ brought changes) ∧
    (∀ t, (h.push t).download.length = min (h.download.length + 1) h.limit ∧
      (h.push t).upload.length = min (h.upload.length + 1) h.limit) ∧
    (∀ ts : List Traffic, ((ofLimit m).changed (ts.map .push)).download.length = m ∧
      ((ofLimit m).changed (ts.map .push)).upload.length = m) ∧
    ∀ later, (h.changed later).samples <:+ h.samples ++ brought later := by
  intro h
  obtain ⟨limit, kept, hkept, hh⟩ :=
    changed_ofSamples m (List.replicate m ⟨0, 0⟩) changes
  have hh : h = ofSamples limit kept := by rw [← hh, ← ofLimit_eq]
  refine ⟨⟨?_, ?_⟩, fun t => ?_, fun ts => ?_, fun later => ?_⟩
  · simp [hh, ofSamples]
  · rwa [hh, samples_ofSamples]
  · rw [hh, push_ofSamples]
    simp [ofSamples, length_rtake, Nat.min_comm]
  · have hrun : (ofLimit m).changed (ts.map .push) =
        ofSamples m ((List.replicate m (⟨0, 0⟩ : Traffic) ++ ts).rtake m) := by
      rw [← foldl_push (by simp), ← ofLimit_eq, changed, List.foldl_map]
      rfl
    rw [hrun]
    simp [ofSamples, length_rtake]
  · obtain ⟨limit', kept', hkept', hlater⟩ := changed_ofSamples limit kept later
    rwa [hh, hlater, samples_ofSamples, samples_ofSamples]

/-- A limit that was lower for a while leaves its gap: the sample of before does not come back. -/
example :
    ((ofLimit 3).changed [.push ⟨1, 10⟩, .push ⟨2, 20⟩, .resize 1, .push ⟨3, 30⟩, .resize 3,
      .push ⟨4, 40⟩]).samples = [⟨3, 30⟩, ⟨4, 40⟩] := rfl

end History

end ShaperDash
