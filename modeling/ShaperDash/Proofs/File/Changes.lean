import Mathlib.Data.List.Infix
import ShaperDash.Proofs.File.Growth

/-!
# Other programs

Other programs change files while a session goes on.  What a change does to an entry depends on the
change and on that entry alone, so trees that are alike in some places stay alike there, and a
change that spares the log leaves it as it is.

* `Change.effect`, `FileTree.entry?_change` : a change, entry by entry.
* `Change.Spares` : the change is made beside a route, neither above it nor below.
* `FileTree.HasLog.changes`, `FileTree.SameBut.changes`, `FileTree.openLog_changes` : **what is
  spared stays**, also what keeps a log from being opened.
* `FileTree.SameOutside` : trees that are alike outside a route; changes and a log that is below
  keep them so.
-/

namespace ShaperDash

/-! ### One entry -/

namespace Change

/-- What a change makes of what stands at a route. -/
def effect (q : Route) (e : Option Entry) : Change → Option Entry
  | write r bytes =>
    if q = r then some (.file bytes)
    else if r <+: q then none
    else e.or (if q <+: r.dropLast then some .directory else none)
  | remove r => if r <+: q then none else e
  | makeDirectories r => e.or (if q <+: r then some .directory else none)

/-- The change is made neither above the route nor at it nor below. -/
def Spares (r : Route) (c : Change) : Prop := ¬ c.route <+: r ∧ ¬ r <+: c.route

instance (r : Route) (c : Change) : Decidable (c.Spares r) :=
  inferInstanceAs (Decidable (¬ c.route <+: r ∧ ¬ r <+: c.route))

variable {c : Change} {q r : Route} {e : Entry}

/-- What stands along a route that is spared stays. -/
theorem Spares.effect_eq (h : c.Spares r) (hq : q <+: r) : c.effect q (some e) = some e := by
  have hnot : ¬ c.route <+: q := fun hc => h.1 (hc.trans hq)
  cases c with
  | write p bytes =>
    have hne : q ≠ p := fun heq => hnot (heq ▸ List.prefix_refl q)
    simp only [route] at hnot
    rw [effect, if_neg hne, if_neg hnot, Option.some_or]
  | remove p =>
    simp only [route] at hnot
    rw [effect, if_neg hnot]
  | makeDirectories p => rw [effect, Option.some_or]

end Change

namespace FileTree

variable {t t' : FileTree} {c : Change} {cs : List Change} {p q r : Route} {bytes : ByteArray}

theorem entry?_remove_of_ne_nil (hq : q ≠ []) :
    entry? (t.remove r) q = if r <+: q then none else t.entry? q := by
  rw [entry?_of_ne_nil hq, entry?_of_ne_nil hq]
  exact lookup_filter_not_prefix t.entries

/-- **A change, entry by entry.**  The root is always a directory. -/
theorem entry?_change (hq : q ≠ []) : entry? (t.change c) q = c.effect q (t.entry? q) := by
  cases c with
  | write r bytes =>
    have hwrite : entry? (t.writeFile r bytes) q =
        if q = r then some (.file bytes)
        else entry? ((t.remove r).makeDirectories r.dropLast) q := by
      rw [entry?_of_ne_nil hq, entry?_of_ne_nil hq, writeFile, List.lookup_cons]
      by_cases heq : q = r
      · simp [heq]
      · simp [beq_false_of_ne heq, heq]
    rw [change, hwrite, entry?_makeDirectories, entry?_remove_of_ne_nil hq, Change.effect]
    by_cases hbelow : r <+: q
    · -- nothing is made below the file
      have hnot : ¬ q <+: r.dropLast := by
        intro hp
        have hlength := (hbelow.trans hp).length_le
        rw [List.length_dropLast] at hlength
        have hr : r = [] := List.length_eq_zero_iff.1 (by omega)
        rw [hr] at hp
        exact hq (List.prefix_nil.1 hp)
      simp [hbelow, hnot]
    · simp [hbelow]
  | remove r => exact entry?_remove_of_ne_nil hq
  | makeDirectories r => exact entry?_makeDirectories

theorem workingDirectory_change : (t.change c).workingDirectory = t.workingDirectory := by
  cases c with
  | write r bytes => exact workingDirectory_writeFile
  | remove r => rfl
  | makeDirectories r => exact workingDirectory_makeDirectories

theorem workingDirectory_changes : (t.changes cs).workingDirectory = t.workingDirectory := by
  induction cs generalizing t with
  | nil => rfl
  | cons c cs ih => exact ih.trans workingDirectory_change

theorem changes_append (cs cs' : List Change) :
    t.changes (cs ++ cs') = (t.changes cs).changes cs' := List.foldl_append ..

/-! ### What is spared -/

theorem entry?_change_of_spares {e : Entry} (h : c.Spares r) (hq : q <+: r)
    (he : t.entry? q = some e) : entry? (t.change c) q = some e := by
  by_cases hnil : q = []
  · rw [hnil] at he ⊢
    exact he
  · rw [entry?_change hnil, he, h.effect_eq hq]

theorem Parents.change (h : t.Parents p) (hp : p <+: r) (hc : c.Spares r) :
    (t.change c).Parents p := fun q hq =>
  entry?_change_of_spares hc ((hq.trans (List.dropLast_prefix p)).trans hp) (h q hq)

theorem Parents.changes (h : t.Parents p) (hp : p <+: r) (hcs : ∀ c ∈ cs, c.Spares r) :
    (t.changes cs).Parents p := by
  induction cs generalizing t with
  | nil => exact h
  | cons c cs ih =>
    obtain ⟨hc, hcs⟩ := List.forall_mem_cons.1 hcs
    exact ih (h.change hp hc) hcs

/-- A log that is spared stays. -/
theorem HasLog.changes (h : t.HasLog r bytes) (hcs : ∀ c ∈ cs, c.Spares r) :
    (t.changes cs).HasLog r bytes := by
  refine ⟨h.nonempty, h.parents.changes (List.prefix_refl r) hcs, ?_⟩
  have hfile := h.file
  clear h
  induction cs generalizing t with
  | nil => exact hfile
  | cons c cs ih =>
    obtain ⟨hc, hcs⟩ := List.forall_mem_cons.1 hcs
    exact ih hcs (entry?_change_of_spares hc (List.prefix_refl r) hfile)

/-- Trees that differ in the bytes of a log that is spared go on to differ in nothing else. -/
theorem SameBut.changes (h : SameBut r t t') (hcs : ∀ c ∈ cs, c.Spares r) :
    SameBut r (t.changes cs) (t'.changes cs) := by
  induction cs generalizing t t' with
  | nil => exact h
  | cons c cs ih =>
    obtain ⟨hc, hcs⟩ := List.forall_mem_cons.1 hcs
    refine ih ⟨?_, ?_, fun q hq => ?_⟩ hcs
    · rw [workingDirectory_change, workingDirectory_change, h.workingDirectory]
    · obtain ⟨bytes, bytes', hfile, hfile'⟩ := h.file
      exact ⟨bytes, bytes', entry?_change_of_spares hc (List.prefix_refl r) hfile,
        entry?_change_of_spares hc (List.prefix_refl r) hfile'⟩
    · by_cases hnil : q = []
      · rw [hnil]
        rfl
      · rw [entry?_change hnil, entry?_change hnil, h.others q hq]

/-! ### What is in the way -/

/-- The two trees differ at a route and below it, if at all. -/
structure SameOutside (p : Route) (t t' : FileTree) : Prop where
  workingDirectory : t'.workingDirectory = t.workingDirectory
  others : ∀ q, ¬ p <+: q → t'.entry? q = t.entry? q

namespace SameOutside

theorem refl (p : Route) (t : FileTree) : SameOutside p t t := ⟨rfl, fun _ _ => rfl⟩

variable {t'' : FileTree}

theorem symm (h : SameOutside p t t') : SameOutside p t' t :=
  ⟨h.workingDirectory.symm, fun q hq => (h.others q hq).symm⟩

theorem trans (h : SameOutside p t t') (h' : SameOutside p t' t'') : SameOutside p t t'' :=
  ⟨h'.workingDirectory.trans h.workingDirectory,
    fun q hq => (h'.others q hq).trans (h.others q hq)⟩

theorem changes (h : SameOutside p t t') (cs : List Change) :
    SameOutside p (t.changes cs) (t'.changes cs) := by
  induction cs generalizing t t' with
  | nil => exact h
  | cons c cs ih =>
    refine ih ⟨?_, fun q hq => ?_⟩
    · rw [workingDirectory_change, workingDirectory_change, h.workingDirectory]
    · by_cases hnil : q = []
      · rw [hnil]
        rfl
      · rw [entry?_change hnil, entry?_change hnil, h.others q hq]

/-- The way to a route is outside it. -/
theorem parents (h : SameOutside p t t') (hp : p ≠ []) (hpar : t.Parents p) : t'.Parents p :=
  fun q hq => (h.others q (not_prefix_of_prefix_dropLast hp hq)).trans (hpar q hq)

end SameOutside

/-- A route that is no way to another one below `p` leads to `p`. -/
theorem Parents.entry?_eq (h : t.Parents p) (hp : p <+: r) (hq : q <+: r) (hnot : ¬ p <+: q) :
    t.entry? q = some .directory := by
  refine h q ?_
  obtain hqp | hpq := List.prefix_or_prefix_of_prefix hq hp
  · -- a proper start of `p` is a start of what is before its last name
    have hlength : q.length < p.length := Nat.lt_of_le_of_ne hqp.length_le fun heq =>
      hnot (hqp.eq_of_length heq ▸ List.prefix_refl q)
    refine List.prefix_of_prefix_length_le hqp (List.dropLast_prefix p) ?_
    rw [List.length_dropLast]
    omega
  · exact absurd hpq hnot

/-- Directories on the way to a route below `p` are made at `p` and below. -/
theorem Parents.sameOutside_makeDirectories (h : t.Parents p) (hp : p <+: r) :
    SameOutside p t (t.makeDirectories r.dropLast) where
  workingDirectory := workingDirectory_makeDirectories
  others q hq := by
    rw [entry?_makeDirectories]
    split_ifs with hway
    · rw [h.entry?_eq hp (hway.trans (List.dropLast_prefix r)) hq]
      rfl
    · exact Option.or_none

theorem Parents.sameOutside_writeFile (h : t.Parents p) (hp : p <+: r) (bytes : ByteArray) :
    SameOutside p t (t.writeFile r bytes) where
  workingDirectory := workingDirectory_writeFile
  others q hq := by
    by_cases hnil : q = []
    · rw [hnil]
      rfl
    · have hne : q ≠ r := by
        rintro rfl
        exact hq hp
      have hbelow : ¬ r <+: q := fun hr => hq (hp.trans hr)
      have hwrite : entry? (t.writeFile r bytes) q = (Change.write r bytes).effect q (t.entry? q) :=
        entry?_change (c := .write r bytes) hnil
      rw [hwrite, Change.effect, if_neg hne, if_neg hbelow]
      split_ifs with hway
      · rw [h.entry?_eq hp (hway.trans (List.dropLast_prefix r)) hq]
        rfl
      · exact Option.or_none

/-- A log below `p` is opened without a change outside. -/
theorem Parents.sameOutside_openLog (hne : p ≠ []) (h : t.Parents p) (hp : p <+: r)
    (hopen : t.openLog r = some t') : SameOutside p t t' := by
  have hdirs := h.sameOutside_makeDirectories hp
  unfold FileTree.openLog at hopen
  split_ifs at hopen
  dsimp only at hopen
  split at hopen
  · cases hopen
  · cases hopen
    exact hdirs
  · cases hopen
    exact hdirs.trans ((hdirs.parents hne h).sameOutside_writeFile hp .empty)

theorem Parents.sameOutside_record (h : t.Parents p) {sink : Option LogSink}
    (hp : ∀ k ∈ sink, p <+: k.route) (events : List LogEvent) :
    SameOutside p t (t.record sink events) := by
  cases sink with
  | none => exact .refl p t
  | some k =>
    unfold record append
    dsimp only
    split
    · exact h.sameOutside_writeFile (hp k rfl) _
    · exact .refl p t

/-! ### Reading outside a route -/

/-- The walk along the path keeps away from a route and what is below it. -/
def Avoids (t : FileTree) (path : String) (p : Route) : Prop :=
  ∀ front ∈ (names path).inits, ¬ p <+: front.foldl advance (t.origin path)

instance (t : FileTree) (path : String) (p : Route) : Decidable (t.Avoids path p) :=
  inferInstanceAs (Decidable (∀ front ∈ (names path).inits, _))

theorem Avoids.congr {path : String} (h : t.Avoids path p)
    (hdir : t'.workingDirectory = t.workingDirectory) : t'.Avoids path p := by
  unfold Avoids origin at h ⊢
  rwa [hdir]

namespace SameOutside

theorem enter_eq (h : SameOutside p t t') {here : Route} {name : String} (hhere : ¬ p <+: here)
    (hnext : ¬ p <+: advance here name) : t'.enter here name = t.enter here name := by
  unfold enter
  rw [h.others here hhere]
  -- what stands at the next name is looked up only if the walk would go there
  by_cases hstay : name = "" ∨ name = "."
  · simp only [if_pos hstay]
  by_cases hup : name = ".."
  · simp only [if_neg hstay, if_pos hup]
  · rw [advance, if_neg hstay, if_neg hup] at hnext
    rw [h.others _ hnext]

/-- The same walks are possible away from the route. -/
theorem foldlM_enter_eq (h : SameOutside p t t') {ns : List String} {here : Route}
    (havoid : ∀ front ∈ ns.inits, ¬ p <+: front.foldl advance here) :
    ns.foldlM t'.enter here = ns.foldlM t.enter here := by
  induction ns generalizing here with
  | nil => rfl
  | cons name ns ih =>
    have hhere : ¬ p <+: here := havoid [] (by simp)
    have hnext : ¬ p <+: advance here name := havoid [name] (by simp)
    rw [List.foldlM_cons, List.foldlM_cons, h.enter_eq hhere hnext]
    cases hn : t.enter here name with
    | error e => rfl
    | ok next =>
      obtain rfl := t.eq_advance_of_enter hn
      refine ih fun front hfront => havoid (name :: front) ?_
      simpa using hfront

/-- **Whoever keeps away from the route reads the same.** -/
theorem readText (h : SameOutside p t t') {path : String} (havoid : t.Avoids path p) :
    t'.readText path = t.readText path := by
  have horigin : t'.origin path = t.origin path := by rw [origin, origin, h.workingDirectory]
  have hresolve : t'.resolve path = t.resolve path := by
    rw [resolve, resolve, horigin, h.foldlM_enter_eq havoid]
  unfold FileTree.readText readBytes
  rw [hresolve]
  cases hr : t.resolve path with
  | error e => rfl
  | ok q =>
    obtain rfl := eq_routeOf_of_resolve hr
    have hq : ¬ p <+: t.routeOf path := havoid _ (by simp)
    dsimp only
    rw [h.others _ hq]

end SameOutside

end FileTree

end ShaperDash
