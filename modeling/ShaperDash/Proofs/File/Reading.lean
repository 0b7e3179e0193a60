import Mathlib.Data.List.Basic
import Mathlib.Tactic.SplitIfs
import ShaperDash.File.Tree

/-!
# What stands at a path

What reading a path comes to, told by the walk along its names: either it comes to a file that holds
a text, or something is in its way.

* `FileTree.Walk`, `FileTree.Obstacle` : how a walk goes on, and what ends it.
* `FileTree.Holds` : the path leads to a file of a text.
* `FileTree.Unreadable` : what keeps the path from being read, case by case.
* `FileTree.readText_eq_ok_iff`, `FileTree.readText_eq_error_iff` : **a path is read exactly if it
  holds a text**, and the fault is exactly what keeps it from being read.
-/

namespace ShaperDash.FileTree

variable (t : FileTree)

/-! ### Walks -/

/-- The name stands for no entry of a directory: it stays, or it goes up. -/
def Turns (name : String) : Prop := name = "" ∨ name = "." ∨ name = ".."

/-- A walk that has come to `here` goes on along a name: here is a directory, and the name turns, or
it is not too long and something stands there. -/
structure Passable (here : Route) (name : String) : Prop where
  directory : t.entry? here = some .directory
  leads : Turns name ∨
    ¬ Turns name ∧ name.utf8ByteSize ≤ maxName ∧ (t.entry? (here ++ [name])).isSome

/-- What ends a walk that has come to `here` and should go on along a name. -/
inductive Obstacle (here : Route) (name : String) : ReadFault → Prop
  | nowhere : t.entry? here = none → Obstacle here name .notFound
  | file {bytes : ByteArray} : t.entry? here = some (.file bytes) →
      Obstacle here name .notADirectory
  | tooLong : t.entry? here = some .directory → ¬ Turns name → maxName < name.utf8ByteSize →
      Obstacle here name .nameTooLong
  | missing : t.entry? here = some .directory → ¬ Turns name → name.utf8ByteSize ≤ maxName →
      t.entry? (here ++ [name]) = none → Obstacle here name .notFound

/-- `Walk here names there` says that the walk from `here` along the names comes to `there`. -/
inductive Walk : Route → List String → Route → Prop
  | nil (here : Route) : Walk here [] here
  | cons {here there : Route} {name : String} {names : List String} :
      t.Passable here name → Walk (advance here name) names there → Walk here (name :: names) there

variable {t} {here there : Route} {name : String} {names : List String} {fault : ReadFault}

theorem enter_eq_ok_iff :
    t.enter here name = .ok there ↔ t.Passable here name ∧ there = advance here name := by
  have hadvance : t.enter here name = .ok there → there = advance here name := t.eq_advance_of_enter
  refine ⟨fun h => ⟨?_, hadvance h⟩, ?_⟩
  · unfold enter at h
    split at h
    · next hdir =>
      split_ifs at h with hstay hup hlong hthere
      · exact ⟨hdir, .inl (hstay.imp_right .inl)⟩
      · exact ⟨hdir, .inl (.inr (.inr hup))⟩
      · refine ⟨hdir, .inr ⟨?_, Nat.le_of_not_lt hlong, hthere⟩⟩
        rintro (h | h | h)
        · exact hstay (.inl h)
        · exact hstay (.inr h)
        · exact hup h
    · simp at h
    · simp at h
  · rintro ⟨⟨hdir, hleads⟩, rfl⟩
    simp only [enter, hdir, advance]
    split_ifs with hstay hup hlong hthere
    · rfl
    · rfl
    all_goals
      obtain ⟨-, hlong', hthere'⟩ := hleads.resolve_left (by simp [Turns]; tauto)
    · exact absurd hlong (Nat.not_lt.2 hlong')
    · rfl
    · exact absurd hthere' hthere

theorem enter_eq_error_iff : t.enter here name = .error fault ↔ t.Obstacle here name fault := by
  constructor
  · intro h
    unfold enter at h
    split at h
    · next hdir =>
      split_ifs at h with hstay hup hlong hthere
      all_goals
        have hturns : ¬ Turns name := by simp only [Turns]; tauto
        cases h
      · exact .tooLong hdir hturns hlong
      · exact .missing hdir hturns (Nat.le_of_not_lt hlong) (by simpa using hthere)
    · next hfile =>
      cases h
      exact .file hfile
    · next hnone =>
      cases h
      exact .nowhere hnone
  · intro h
    cases h with
    | nowhere hnone => simp [enter, hnone]
    | file hfile => simp [enter, hfile]
    | tooLong hdir hturns hlong =>
      simp only [Turns, not_or] at hturns
      simp [enter, hdir, hturns, hlong]
    | missing hdir hturns hshort hnone =>
      simp only [Turns, not_or] at hturns
      simp [enter, hdir, hturns, Nat.not_lt.2 hshort, hnone]

theorem foldlM_enter_eq_ok_iff :
    names.foldlM t.enter here = .ok there ↔ t.Walk here names there := by
  induction names generalizing here with
  | nil =>
    constructor
    · intro h
      cases h
      exact .nil _
    · intro h
      cases h
      rfl
  | cons name names ih =>
    rw [List.foldlM_cons]
    constructor
    · intro h
      cases hn : t.enter here name with
      | error e => simp [hn, bind, Except.bind] at h
      | ok r =>
        obtain ⟨hpass, rfl⟩ := enter_eq_ok_iff.1 hn
        rw [hn] at h
        exact .cons hpass (ih.1 h)
    · rintro (_ | ⟨hpass, hwalk⟩)
      rw [enter_eq_ok_iff.2 ⟨hpass, rfl⟩]
      exact ih.2 hwalk

/-- A walk that ends early has come to its obstacle along the names before. -/
theorem foldlM_enter_eq_error_iff :
    names.foldlM t.enter here = .error fault ↔ ∃ done name left mid,
      names = done ++ name :: left ∧ t.Walk here done mid ∧ t.Obstacle mid name fault := by
  induction names generalizing here with
  | nil => simp [pure, Except.pure]
  | cons name names ih =>
    rw [List.foldlM_cons]
    constructor
    · intro h
      cases hn : t.enter here name with
      | error e =>
        obtain rfl : e = fault := by simpa [hn, bind, Except.bind] using h
        exact ⟨[], name, names, here, rfl, .nil here, enter_eq_error_iff.1 hn⟩
      | ok r =>
        obtain ⟨hpass, rfl⟩ := enter_eq_ok_iff.1 hn
        rw [hn] at h
        obtain ⟨done, name', left, mid, rfl, hwalk, hobstacle⟩ := ih.1 h
        exact ⟨name :: done, name', left, mid, rfl, .cons hpass hwalk, hobstacle⟩
    · rintro ⟨done, name', left, mid, heq, hwalk, hobstacle⟩
      cases hwalk with
      | nil =>
        obtain ⟨rfl, rfl⟩ : name = name' ∧ names = left := by simpa using heq
        rw [enter_eq_error_iff.2 hobstacle]
        rfl
      | cons hpass hwalk =>
        obtain ⟨rfl, rfl⟩ : name = _ ∧ names = _ := by simpa using heq
        rw [enter_eq_ok_iff.2 ⟨hpass, rfl⟩]
        exact ih.2 ⟨_, name', left, mid, rfl, hwalk, hobstacle⟩

/-! ### Paths -/

/-- A walk can be tried along the path: it is neither empty nor too long, and there is no NUL. -/
structure Spelled (path : String) : Prop where
  noNul : '\x00' ∉ path.toList
  nonempty : path ≠ ""
  short : path.utf8ByteSize < maxPath

variable (t) in
/-- The path leads along a route. -/
def LeadsTo (path : String) (r : Route) : Prop :=
  Spelled path ∧ t.Walk (t.origin path) (FileTree.names path) r

variable (t) in
/-- The path leads to a file that holds the text. -/
def Holds (path text : String) : Prop :=
  ∃ r, t.LeadsTo path r ∧ t.entry? r = some (.file text.toUTF8)

variable (t) in
/-- What keeps a path from being read as text. -/
inductive Unreadable (path : String) : ReadFault → Prop
  | nul : '\x00' ∈ path.toList → Unreadable path .nulInName
  | empty : path = "" → Unreadable path .notFound
  | tooLong : '\x00' ∉ path.toList → maxPath ≤ path.utf8ByteSize → Unreadable path .nameTooLong
  | obstacle {done left : List String} {name : String} {mid : Route} {fault : ReadFault} :
      Spelled path → FileTree.names path = done ++ name :: left →
      t.Walk (t.origin path) done mid → t.Obstacle mid name fault → Unreadable path fault
  | nothing {r : Route} : t.LeadsTo path r → t.entry? r = none → Unreadable path .notFound
  | directory {r : Route} :
      t.LeadsTo path r → t.entry? r = some .directory → Unreadable path .isADirectory
  | notUtf8 {r : Route} {bytes : ByteArray} : t.LeadsTo path r → t.entry? r = some (.file bytes) →
      (∀ text : String, text.toUTF8 ≠ bytes) → Unreadable path .notUtf8

variable {path text : String} {r : Route} {bytes : ByteArray}

theorem resolve_of_spelled (h : Spelled path) :
    t.resolve path = (FileTree.names path).foldlM t.enter (t.origin path) := by
  simp [resolve, h.noNul, h.nonempty, Nat.not_le.2 h.short]

theorem resolve_eq_ok_iff : t.resolve path = .ok r ↔ t.LeadsTo path r := by
  constructor
  · intro h
    have hspelled : Spelled path := by
      unfold resolve at h
      split_ifs at h with hnul hempty hlong
      exact ⟨by simpa using hnul, hempty, Nat.lt_of_not_le hlong⟩
    exact ⟨hspelled, foldlM_enter_eq_ok_iff.1 (resolve_of_spelled hspelled ▸ h)⟩
  · rintro ⟨hspelled, hwalk⟩
    exact (resolve_of_spelled hspelled).trans (foldlM_enter_eq_ok_iff.2 hwalk)

theorem fromUTF8?_eq_some_iff : String.fromUTF8? bytes = some text ↔ text.toUTF8 = bytes := by
  unfold String.fromUTF8?
  constructor
  · intro h
    split_ifs at h
    cases h
    rfl
  · rintro rfl
    exact dif_pos text.isValidUTF8

theorem fromUTF8?_eq_none_iff :
    String.fromUTF8? bytes = none ↔ ∀ text : String, text.toUTF8 ≠ bytes := by
  simp only [Option.eq_none_iff_forall_ne_some, ne_eq, fromUTF8?_eq_some_iff]

/-- **A path is read exactly if it holds a text.** -/
theorem readText_eq_ok_iff : t.readText path = .ok text ↔ t.Holds path text := by
  simp only [Holds, ← resolve_eq_ok_iff, readText, readBytes]
  cases hr : t.resolve path with
  | error e => simp
  | ok r =>
    rcases he : t.entry? r with _ | ⟨bytes⟩ | _
    · simp [he]
    · cases hs : String.fromUTF8? bytes with
      | none => simpa [he, hs, eq_comm] using fromUTF8?_eq_none_iff.1 hs text
      | some s =>
        have hone : bytes = text.toUTF8 ↔ s = text := by
          rw [← fromUTF8?_eq_some_iff.1 hs]
          exact String.toByteArray_inj
        simpa [he, hs] using hone.symm
    · simp [he]

/-- **The fault of a read is exactly what keeps the path from being read.** -/
theorem readText_eq_error_iff : t.readText path = .error fault ↔ t.Unreadable path fault := by
  constructor
  · intro h
    unfold readText readBytes at h
    cases hr : t.resolve path with
    | error e =>
      obtain rfl : e = fault := by simpa [hr] using h
      by_cases hspelled : Spelled path
      · rw [resolve_of_spelled hspelled] at hr
        obtain ⟨done, name, left, mid, heq, hwalk, hobstacle⟩ := foldlM_enter_eq_error_iff.1 hr
        exact .obstacle hspelled heq hwalk hobstacle
      · unfold resolve at hr
        split_ifs at hr with hnul hempty hlong
        · cases hr
          exact .nul (by simpa using hnul)
        · cases hr
          exact .empty hempty
        · cases hr
          exact .tooLong (by simpa using hnul) hlong
        · exact absurd ⟨by simpa using hnul, hempty, Nat.lt_of_not_le hlong⟩ hspelled
    | ok r =>
      have hleads := resolve_eq_ok_iff.1 hr
      rcases he : t.entry? r with _ | ⟨bytes⟩ | _
      · obtain rfl : ReadFault.notFound = fault := by simpa [hr, he] using h
        exact .nothing hleads he
      · cases hs : String.fromUTF8? bytes with
        | none =>
          obtain rfl : ReadFault.notUtf8 = fault := by simpa [hr, he, hs] using h
          exact .notUtf8 hleads he (fromUTF8?_eq_none_iff.1 hs)
        | some s => simp [hr, he, hs] at h
      · obtain rfl : ReadFault.isADirectory = fault := by simpa [hr, he] using h
        exact .directory hleads he
  · intro h
    cases h with
    | nul hnul => simp [readText, readBytes, resolve, hnul]
    | empty hempty => simp [readText, readBytes, resolve, hempty]
    | tooLong hnul hlong =>
      have hne : path ≠ "" := by
        rintro rfl
        exact absurd hlong (by decide)
      simp [readText, readBytes, resolve, hnul, hne, hlong]
    | obstacle hspelled heq hwalk hobstacle =>
      have hr : t.resolve path = .error fault :=
        (resolve_of_spelled hspelled).trans
          (foldlM_enter_eq_error_iff.2 ⟨_, _, _, _, heq, hwalk, hobstacle⟩)
      simp [readText, readBytes, hr]
    | nothing hleads he => simp [readText, readBytes, resolve_eq_ok_iff.2 hleads, he]
    | directory hleads he => simp [readText, readBytes, resolve_eq_ok_iff.2 hleads, he]
    | notUtf8 hleads he hbytes =>
      simp [readText, readBytes, resolve_eq_ok_iff.2 hleads, he, fromUTF8?_eq_none_iff.2 hbytes]

end ShaperDash.FileTree
