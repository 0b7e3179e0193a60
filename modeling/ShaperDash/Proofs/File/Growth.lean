import Mathlib.Data.List.Basic
import Mathlib.Tactic.SplitIfs
import ShaperDash.Log.Sink

/-!
# A file that grows

The log is one file of the tree.  Opening it makes it and the directories above it where they are
missing, and writing to it changes nothing but its bytes.

* `FileTree.entry?_makeDirectories`, `FileTree.entry?_remove` : what the changes of a tree do, entry
  by entry.
* `FileTree.HasLog` : a file stands at a route, with directories above it.
* `FileTree.hasLog_of_openLog`, `FileTree.HasLog.append` : opening gives such a file, and it keeps
  what it held as it grows.
* `FileTree.SameBut.readText` : **whoever reads another file reads the same**.
-/

namespace ShaperDash.FileTree

variable {t t' : FileTree} {q r : Route} {bytes : ByteArray}

theorem routeOf_congr (h : t'.workingDirectory = t.workingDirectory) (path : String) :
    t'.routeOf path = t.routeOf path := by
  simp only [routeOf, origin, h]

/-! ### Entries of changed trees -/

@[simp] theorem entry?_nil : t.entry? [] = some .directory := rfl

theorem entry?_of_ne_nil (h : q ≠ []) : t.entry? q = t.entries.lookup q := if_neg h

theorem lookup_filter_not_prefix (l : List (Route × Entry)) :
    (l.filter fun e => !r.isPrefixOf e.1).lookup q = if r <+: q then none else l.lookup q := by
  induction l with
  | nil => simp
  | cons e l ih =>
    obtain ⟨p, e⟩ := e
    by_cases hp : r <+: p
    · have hdrop : r.isPrefixOf p = true := List.isPrefixOf_iff_prefix.2 hp
      rw [List.filter_cons_of_neg (by simp [hdrop]), ih]
      split_ifs with hq
      · rfl
      · -- the entry that is dropped is not the one that is looked up
        have hne : q ≠ p := by
          rintro rfl
          exact hq hp
        rw [List.lookup_cons, beq_false_of_ne hne]
    · have hkeep : r.isPrefixOf p = false := by
        simpa [← List.isPrefixOf_iff_prefix] using hp
      rw [List.filter_cons_of_pos (by simp [hkeep]), List.lookup_cons, List.lookup_cons, ih]
      by_cases hq : q = p
      · subst hq
        simp [hp]
      · simp [beq_false_of_ne hq]

theorem entry?_remove (hr : r ≠ []) :
    entry? (t.remove r) q = if r <+: q then none else t.entry? q := by
  by_cases hq : q = []
  · subst hq
    simp [hr]
  · rw [entry?_of_ne_nil hq, entry?_of_ne_nil hq]
    exact lookup_filter_not_prefix t.entries

theorem entry?_makeDirectory :
    entry? (t.makeDirectory r) q = (t.entry? q).or (if q = r then some .directory else none) := by
  unfold makeDirectory
  split_ifs with hsome hq hq
  · subst hq
    obtain ⟨e, he⟩ := Option.isSome_iff_exists.1 hsome
    simp [he]
  · simp
  · subst hq
    have hne : q ≠ [] := by
      rintro rfl
      simp at hsome
    rw [entry?_of_ne_nil hne, List.lookup_cons, beq_self_eq_true]
    simp [Option.not_isSome_iff_eq_none.1 hsome]
  · by_cases hnil : q = []
    · simp [hnil]
    · rw [entry?_of_ne_nil hnil, List.lookup_cons, beq_false_of_ne hq, entry?_of_ne_nil hnil]
      simp

theorem workingDirectory_makeDirectory :
    (t.makeDirectory r).workingDirectory = t.workingDirectory := by
  unfold makeDirectory
  split_ifs <;> rfl

/-- The first directories of a route. -/
theorem entry?_foldl_makeDirectory {n : Nat} (hn : n ≤ r.length + 1) :
    entry? ((List.range n).foldl (fun t n => t.makeDirectory (r.take n)) t) q =
      (t.entry? q).or (if q <+: r ∧ q.length < n then some .directory else none) := by
  induction n with
  | zero => simp
  | succ n ih =>
    rw [List.range_succ, List.foldl_append, List.foldl_cons, List.foldl_nil, entry?_makeDirectory,
      ih (by omega), Option.or_assoc]
    congr 1
    -- the new directory is the start of the route of that length
    have htake : q = r.take n ↔ q <+: r ∧ q.length = n := by
      rw [List.prefix_iff_eq_take]
      constructor
      · rintro rfl
        have : (r.take n).length = n := by rw [List.length_take]; omega
        rw [this]
        exact ⟨rfl, rfl⟩
      · rintro ⟨h, rfl⟩
        exact h
    by_cases hp : q <+: r
    · by_cases hlt : q.length < n
      · simp [hp, hlt, Nat.lt_succ_of_lt hlt]
      · by_cases heq : q.length = n
        · simp [hp, heq, htake]
        · have : ¬ q.length < n + 1 := by omega
          simp [hp, hlt, heq, this, htake]
    · simp [hp, htake]

theorem entry?_makeDirectories : entry? (t.makeDirectories r) q =
    (t.entry? q).or (if q <+: r then some .directory else none) := by
  have hlength : q <+: r → q.length < r.length + 1 := fun h => Nat.lt_succ_of_le h.length_le
  rw [makeDirectories, entry?_foldl_makeDirectory (Nat.le_refl _)]
  by_cases hp : q <+: r
  · simp [hp, hlength hp]
  · simp [hp]

theorem workingDirectory_makeDirectories :
    (t.makeDirectories r).workingDirectory = t.workingDirectory := by
  unfold makeDirectories
  induction List.range (r.length + 1) generalizing t with
  | nil => rfl
  | cons n ns ih => exact ih.trans workingDirectory_makeDirectory

theorem workingDirectory_writeFile :
    (t.writeFile r bytes).workingDirectory = t.workingDirectory :=
  workingDirectory_makeDirectories (t := t.remove r)

theorem workingDirectory_append (text : String) :
    (t.append r text).workingDirectory = t.workingDirectory := by
  unfold append
  split
  · exact workingDirectory_writeFile
  · rfl

theorem workingDirectory_record (sink : Option LogSink) (events : List LogEvent) :
    (t.record sink events).workingDirectory = t.workingDirectory := by
  cases sink with
  | none => rfl
  | some k => exact workingDirectory_append _

theorem makeDirectories_of_isSome (h : ∀ p, p <+: r → (t.entry? p).isSome) :
    t.makeDirectories r = t := by
  unfold makeDirectories
  induction List.range (r.length + 1) with
  | nil => rfl
  | cons n ns ih =>
    rw [List.foldl_cons, makeDirectory, if_pos (h _ (List.take_prefix n r))]
    exact ih

/-! ### Files in their directories -/

/-- Directories stand all along the route, up to its last name. -/
def Parents (t : FileTree) (r : Route) : Prop :=
  ∀ p, p <+: r.dropLast → t.entry? p = some .directory

theorem not_prefix_of_prefix_dropLast (hr : r ≠ []) {p : Route} (hp : p <+: r.dropLast) :
    ¬ r <+: p := by
  intro h
  have hlength := (h.trans hp).length_le
  have : 0 < r.length := List.length_pos_iff.2 hr
  rw [List.length_dropLast] at hlength
  omega

/-- Directories above a route leave what stands there. -/
theorem entry?_makeDirectories_dropLast (hr : r ≠ []) :
    entry? (t.makeDirectories r.dropLast) r = t.entry? r := by
  have hnot : ¬ r <+: r.dropLast := fun hp =>
    not_prefix_of_prefix_dropLast hr hp (List.prefix_refl r)
  simp [entry?_makeDirectories, hnot]

namespace Parents

variable (h : t.Parents r) (hr : r ≠ [])

include h hr

theorem writeFile_eq :
    t.writeFile r bytes = { t with entries := (r, .file bytes) :: (t.remove r).entries } := by
  have hdirs : (t.remove r).makeDirectories r.dropLast = t.remove r := by
    refine makeDirectories_of_isSome fun p hp => ?_
    rw [entry?_remove hr, if_neg (not_prefix_of_prefix_dropLast hr hp), h p hp]
    rfl
  rw [writeFile, hdirs]
  rfl

theorem entry?_writeFile : entry? (t.writeFile r bytes) q =
    if q = r then some (.file bytes) else if r <+: q then none else t.entry? q := by
  rw [h.writeFile_eq hr]
  by_cases hq : q = []
  · subst hq
    simp [hr, Ne.symm hr]
  · rw [entry?_of_ne_nil hq, List.lookup_cons]
    by_cases heq : q = r
    · simp [heq]
    · rw [beq_false_of_ne heq, if_neg heq, ← entry?_remove hr, entry?_of_ne_nil hq]

theorem writeFile : (t.writeFile r bytes).Parents r := by
  intro p hp
  have hnot := not_prefix_of_prefix_dropLast hr hp
  have hne : p ≠ r := by
    rintro rfl
    exact hnot (List.prefix_refl p)
  rw [h.entry?_writeFile hr, if_neg hne, if_neg hnot, h p hp]

/-- Of two files that are written to a route the second stays. -/
theorem writeFile_writeFile (bytes' : ByteArray) :
    (t.writeFile r bytes).writeFile r bytes' = t.writeFile r bytes' := by
  rw [(h.writeFile hr).writeFile_eq hr, h.writeFile_eq hr, h.writeFile_eq hr]
  simp [remove, List.filter_filter]

end Parents

/-! ### The log -/

/-- A file of these bytes stands at a route, with directories above it. -/
structure HasLog (t : FileTree) (r : Route) (bytes : ByteArray) : Prop where
  nonempty : r ≠ []
  parents : t.Parents r
  file : t.entry? r = some (.file bytes)

/-- The bytes at a route before anything is written there. -/
def priorBytes (t : FileTree) (r : Route) : ByteArray :=
  match t.entry? r with
  | some (.file bytes) => bytes
  | _ => .empty

/-- Nothing stands below the route. -/
def Bare (t : FileTree) (r : Route) : Prop := ∀ q, r <+: q → q ≠ r → t.entry? q = none

/-- Opening the log makes the directories above it. -/
theorem parents_makeDirectories (h : t.clear r.dropLast = true) :
    (t.makeDirectories r.dropLast).Parents r := by
  intro p hp
  have hclear : ∀ bytes, t.entry? p ≠ some (.file bytes) := by
    intro bytes hfile
    rw [clear, List.all_eq_true] at h
    have := h p.length (List.mem_range.2 (Nat.lt_succ_of_le hp.length_le))
    rw [← List.prefix_iff_eq_take.1 hp, hfile] at this
    simp at this
  rw [entry?_makeDirectories, if_pos hp]
  rcases he : t.entry? p with _ | ⟨bytes⟩ | _
  · rfl
  · exact absurd he (hclear bytes)
  · rfl

theorem hasLog_of_openLog (hr : r ≠ []) (h : t.openLog r = some t') :
    t'.HasLog r (t.priorBytes r) ∧ t'.workingDirectory = t.workingDirectory ∧
      (t.entry? r = none → t'.Bare r) := by
  unfold openLog at h
  split_ifs at h with hclear
  have hparents : (t.makeDirectories r.dropLast).Parents r :=
    parents_makeDirectories (by simpa using hclear)
  have hself : entry? (t.makeDirectories r.dropLast) r = t.entry? r :=
    entry?_makeDirectories_dropLast hr
  have hdir : (t.makeDirectories r.dropLast).workingDirectory = t.workingDirectory :=
    workingDirectory_makeDirectories
  dsimp only at h
  rw [hself] at h
  unfold priorBytes
  rcases he : t.entry? r with _ | ⟨bytes⟩ | _
  · -- the file is made, and whatever stood below its place is gone
    obtain rfl : (t.makeDirectories r.dropLast).writeFile r .empty = t' := by simpa [he] using h
    refine ⟨⟨hr, hparents.writeFile hr, by simp [hparents.entry?_writeFile hr]⟩, ?_,
      fun _ q hq hne => ?_⟩
    · rw [hparents.writeFile_eq hr]
      exact hdir
    · rw [hparents.entry?_writeFile hr, if_neg hne, if_pos hq]
  · obtain rfl : t.makeDirectories r.dropLast = t' := by simpa [he] using h
    exact ⟨⟨hr, hparents, hself.trans he⟩, hdir, by simp⟩
  · simp [he] at h

namespace HasLog

variable (h : t.HasLog r bytes)

include h

/-- A log that is open is opened again as it is. -/
theorem openLog : t.openLog r = some t := by
  have hclear : t.clear r.dropLast = true := by
    refine List.all_eq_true.2 fun n _ => ?_
    rw [h.parents _ (List.take_prefix n _)]
  have hdirs : t.makeDirectories r.dropLast = t :=
    makeDirectories_of_isSome fun p hp => by rw [h.parents p hp]; rfl
  simp [FileTree.openLog, hclear, hdirs, h.file]

theorem append_eq (text : String) :
    t.append r text = t.writeFile r (bytes ++ text.toUTF8) := by
  simp [FileTree.append, h.file]

theorem append (text : String) : (t.append r text).HasLog r (bytes ++ text.toUTF8) := by
  rw [h.append_eq]
  exact ⟨h.nonempty, h.parents.writeFile h.nonempty,
    by simp [h.parents.entry?_writeFile h.nonempty]⟩

/-- What is written in two parts is written as a whole. -/
theorem append_append (a b : String) : (t.append r a).append r b = t.append r (a ++ b) := by
  rw [(h.append a).append_eq, h.append_eq, h.append_eq,
    h.parents.writeFile_writeFile h.nonempty]
  simp [ByteArray.append_assoc]

theorem bare_append (text : String) : (t.append r text).Bare r := by
  intro q hq hne
  rw [h.append_eq, h.parents.entry?_writeFile h.nonempty, if_neg hne, if_pos hq]

end HasLog

/-! ### Other files -/

/-- The two trees differ in the bytes of one file and in nothing else. -/
structure SameBut (r : Route) (t t' : FileTree) : Prop where
  workingDirectory : t'.workingDirectory = t.workingDirectory
  file : ∃ bytes bytes', t.entry? r = some (.file bytes) ∧ t'.entry? r = some (.file bytes')
  others : ∀ q, q ≠ r → t'.entry? q = t.entry? q

theorem HasLog.sameBut_append (h : t.HasLog r bytes) (hb : t.Bare r) (text : String) :
    SameBut r t (t.append r text) where
  workingDirectory := workingDirectory_append text
  file := ⟨bytes, _, h.file, (h.append text).file⟩
  others q hq := by
    rw [h.append_eq, h.parents.entry?_writeFile h.nonempty, if_neg hq]
    split_ifs with hp
    · exact (hb q hp hq).symm
    · rfl

namespace SameBut

variable (h : SameBut r t t')

include h

theorem isSome_eq (q : Route) : (t'.entry? q).isSome = (t.entry? q).isSome := by
  obtain ⟨bytes, bytes', hb, hb'⟩ := h.file
  by_cases hq : q = r
  · simp [hq, hb, hb']
  · rw [h.others q hq]

/-- A walk meets the same in both trees, since it goes into directories only. -/
theorem enter_eq : t'.enter = t.enter := by
  obtain ⟨bytes, bytes', hb, hb'⟩ := h.file
  funext here name
  by_cases hr : here = r
  · simp [enter, hr, hb, hb']
  · simp only [enter, h.others here hr, h.isSome_eq]

theorem resolve_eq (path : String) : t'.resolve path = t.resolve path := by
  simp only [resolve, origin, h.enter_eq, h.workingDirectory]

end SameBut

/-- A walk that nothing is in the way of comes to the route that its path spells. -/
theorem foldlM_enter_eq_foldl {names : List String} {here there : Route}
    (h : names.foldlM t.enter here = .ok there) : there = names.foldl advance here := by
  induction names generalizing here with
  | nil =>
    cases h
    rfl
  | cons name names ih =>
    cases hn : t.enter here name with
    | error e => simp [List.foldlM_cons, hn, bind, Except.bind] at h
    | ok next =>
      obtain rfl := t.eq_advance_of_enter hn
      rw [List.foldlM_cons, hn] at h
      exact ih h

theorem eq_routeOf_of_resolve {path : String} (h : t.resolve path = .ok r) :
    r = t.routeOf path := by
  unfold resolve at h
  split_ifs at h
  exact foldlM_enter_eq_foldl h

/-- **Whoever reads another file reads the same.** -/
theorem SameBut.readText (h : SameBut r t t') {path : String} (hp : t.resolve path ≠ .ok r) :
    t'.readText path = t.readText path := by
  simp only [FileTree.readText, readBytes, h.resolve_eq]
  cases hr : t.resolve path with
  | error e => rfl
  | ok q =>
    have hq : q ≠ r := by
      rintro rfl
      exact hp hr
    simp only [h.others q hq]

end ShaperDash.FileTree
