import ShaperDash.Proofs.Config.Shape
import ShaperDash.Proofs.File.Reading
import ShaperDash.Session

/-!
# What loading the settings comes to

The file at a path of settings may be missing, or out of reach, or hold what is no text, no
settings, or settings that the dashboard cannot run with.  `FileTree.Loads` tells these cases apart.

* `Config.fault?_eq_none_iff` : the settings that the dashboard can run with.
* `FileTree.Loads` : what loading the settings at a path comes to, case by case.
* `FileTree.readConfig_eq_iff` : loading comes to what the case says.
* `FileTree.readConfig_classified` : **every file system and every path is of one case**, a missing
  file is no error, and no session runs with settings that have no tick or no history.
-/

namespace ShaperDash

open Json

/-! ### Faults of settings -/

namespace Config

variable {c : Config}

theorem fault?_eq_none_iff : c.fault? = none ↔ c.tickMillis ≠ 0 ∧ c.historyLength ≠ 0 := by
  unfold fault?
  split_ifs with htick hhistory
  · simp [htick]
  · simp [hhistory]
  · exact iff_of_true rfl ⟨htick, hhistory⟩

/-- The tick is looked at first. -/
theorem fault?_eq_some_iff {fault : ConfigFault} :
    c.fault? = some fault ↔ fault = .zeroTick ∧ c.tickMillis = 0 ∨
      fault = .zeroHistory ∧ c.tickMillis ≠ 0 ∧ c.historyLength = 0 := by
  unfold fault?
  split_ifs with htick hhistory <;> cases fault <;> simp [*]

theorem one_le_toNat {n : UInt64} (h : n ≠ 0) : 1 ≤ n.toNat := by
  have : n.toNat ≠ (0 : UInt64).toNat := fun heq => h (UInt64.toNat_inj.1 heq)
  exact Nat.one_le_iff_ne_zero.2 this

end Config

namespace FileTree

variable {t t' : FileTree} {path path' : String} {text text' : String} {c : Config}

/-! ### The cases -/

variable (t) in
/-- What loading the settings at a path comes to. -/
inductive Loads (path : String) : Except LoadError Config → Prop
  /-- Nothing stands at the path. -/
  | absent : t.Unreadable path .notFound → Loads path (.ok .default)
  /-- Something else keeps the path from being read. -/
  | unreadable {fault : ReadFault} : t.Unreadable path fault → fault ≠ .notFound →
      Loads path (.error (.unreadable path fault))
  /-- The text says no settings. -/
  | malformed {text : String} {fault : DecodeError} : t.Holds path text →
      (∀ c, ¬ Config.Says text c) → Config.decode text = .error fault →
      Loads path (.error (.malformed path fault))
  | zeroTick {text : String} {c : Config} : t.Holds path text → Config.Says text c →
      c.tickMillis = 0 → Loads path (.error (.invalid .zeroTick))
  | zeroHistory {text : String} {c : Config} : t.Holds path text → Config.Says text c →
      c.tickMillis ≠ 0 → c.historyLength = 0 → Loads path (.error (.invalid .zeroHistory))
  | loaded {text : String} {c : Config} : t.Holds path text → Config.Says text c →
      c.tickMillis ≠ 0 → c.historyLength ≠ 0 → Loads path (.ok c)

theorem readConfig_of_notFound (h : t.Unreadable path .notFound) :
    t.readConfig path = .ok .default := by
  simp [readConfig, readText_eq_error_iff.2 h]

theorem readConfig_of_unreadable {fault : ReadFault} (h : t.Unreadable path fault)
    (hne : fault ≠ .notFound) : t.readConfig path = .error (.unreadable path fault) := by
  have hread : t.readText path = .error fault := readText_eq_error_iff.2 h
  cases fault <;> simp_all [readConfig]

theorem readConfig_of_holds (h : t.Holds path text) :
    t.readConfig path = match Config.decode text with
      | .error e => .error (.malformed path e)
      | .ok c =>
        match c.fault? with
        | some f => .error (.invalid f)
        | none => .ok c := by
  have hread : t.readText path = .ok text := readText_eq_ok_iff.2 h
  unfold readConfig
  cases hdecode : Config.decode text with
  | error e => simp only [hread, hdecode]
  | ok c => cases hfault : c.fault? <;> simp only [hread, hdecode, hfault]

theorem Loads.readConfig {r : Except LoadError Config} (h : t.Loads path r) :
    t.readConfig path = r := by
  cases h with
  | absent hnone => exact readConfig_of_notFound hnone
  | unreadable hfault hne => exact readConfig_of_unreadable hfault hne
  | malformed htext _ herror => rw [readConfig_of_holds htext, herror]
  | zeroTick htext hsays htick =>
    have hfault := Config.fault?_eq_some_iff.2 (.inl ⟨rfl, htick⟩)
    simp only [readConfig_of_holds htext, Config.decode_eq_ok_iff.2 hsays, hfault]
  | zeroHistory htext hsays htick hhistory =>
    have hfault := Config.fault?_eq_some_iff.2 (.inr ⟨rfl, htick, hhistory⟩)
    simp only [readConfig_of_holds htext, Config.decode_eq_ok_iff.2 hsays, hfault]
  | loaded htext hsays htick hhistory =>
    have hfault := Config.fault?_eq_none_iff.2 ⟨htick, hhistory⟩
    simp only [readConfig_of_holds htext, Config.decode_eq_ok_iff.2 hsays, hfault]

/-- Every file system and every path is of one of the cases. -/
theorem exists_loads (t : FileTree) (path : String) : ∃ r, t.Loads path r := by
  cases hread : t.readText path with
  | error fault =>
    have hfault := readText_eq_error_iff.1 hread
    by_cases hne : fault = .notFound
    · subst hne
      exact ⟨_, .absent hfault⟩
    · exact ⟨_, .unreadable hfault hne⟩
  | ok text =>
    have htext := readText_eq_ok_iff.1 hread
    cases hdecode : Config.decode text with
    | error fault =>
      exact ⟨_, .malformed htext (Config.decode_eq_error_iff.1 ⟨fault, hdecode⟩) hdecode⟩
    | ok c =>
      have hsays := Config.decode_eq_ok_iff.1 hdecode
      by_cases htick : c.tickMillis = 0
      · exact ⟨_, .zeroTick htext hsays htick⟩
      by_cases hhistory : c.historyLength = 0
      · exact ⟨_, .zeroHistory htext hsays htick hhistory⟩
      · exact ⟨_, .loaded htext hsays htick hhistory⟩

/-- Loading comes to what the case says. -/
theorem readConfig_eq_iff {r : Except LoadError Config} :
    t.readConfig path = r ↔ t.Loads path r := by
  refine ⟨fun h => ?_, Loads.readConfig⟩
  obtain ⟨r', hr'⟩ := t.exists_loads path
  rwa [← h, hr'.readConfig]

/-! ### Consequences -/

/-- Settings that are loaded have a tick and a history, also the default settings. -/
theorem runnable_of_readConfig (h : t.readConfig path = .ok c) :
    1 ≤ c.tickMillis.toNat ∧ 1 ≤ c.historyLength.toNat := by
  cases readConfig_eq_iff.1 h with
  | absent => decide
  | loaded _ _ htick hhistory => exact ⟨Config.one_le_toNat htick, Config.one_le_toNat hhistory⟩

/-- A text is loaded as the settings that it says, if the dashboard can run with them. -/
theorem readConfig_eq_ok_iff_of_holds (h : t.Holds path text) :
    t.readConfig path = .ok c ↔
      Config.Says text c ∧ c.tickMillis ≠ 0 ∧ c.historyLength ≠ 0 := by
  rw [readConfig_of_holds h, ← Config.decode_eq_ok_iff, ← Config.fault?_eq_none_iff]
  cases Config.decode text with
  | error e => simp
  | ok c' =>
    dsimp only
    split
    · next f hfault =>
      simp only [reduceCtorEq, Except.ok.injEq, false_iff, not_and]
      rintro rfl
      simp [hfault]
    · next hfault =>
      simp only [Except.ok.injEq]
      exact ⟨fun heq => ⟨heq, heq ▸ hfault⟩, And.left⟩

/-- The status and the settings at a path are out of reach for the same reason. -/
theorem readStatus_eq_unreadable_iff {p : String} {fault : ReadFault} :
    t.readStatus path = .error (.unreadable p fault) ↔ p = path ∧ t.Unreadable path fault := by
  rw [← readText_eq_error_iff, readStatus]
  cases t.readText path with
  | error e => simp [eq_comm]
  | ok text =>
    dsimp only
    cases Status.decode text <;> simp [Except.mapError]

theorem readConfig_eq_unreadable_iff {p : String} {fault : ReadFault} :
    t.readConfig path = .error (.unreadable p fault) ↔
      fault ≠ .notFound ∧ p = path ∧ t.Unreadable path fault := by
  rw [readConfig_eq_iff]
  constructor
  · rintro ⟨⟩
    next h hne => exact ⟨hne, rfl, h⟩
  · rintro ⟨hne, rfl, h⟩
    exact .unreadable h hne

end FileTree

/-- The settings of a session, and the event of settings that had to be replaced. -/
def SessionInput.settings (s : SessionInput) (files : FileTree) : Config × List LogEvent :=
  Config.ofLoad ((s.openLog files).1.loadConfig s.environment)

theorem SessionInput.runnable_settings (s : SessionInput) (files : FileTree) :
    1 ≤ (s.settings files).1.tickMillis.toNat ∧ 1 ≤ (s.settings files).1.historyLength.toNat := by
  unfold settings
  cases hload : (s.openLog files).1.loadConfig s.environment with
  | ok c => exact FileTree.runnable_of_readConfig hload
  | error e =>
    -- the default settings take the place of those that could not be loaded
    show 1 ≤ Config.default.tickMillis.toNat ∧ 1 ≤ Config.default.historyLength.toNat
    decide

/-- **Every file system and every path is of one case.**  Loading the settings at a path comes to
exactly what the case says: default settings where nothing stands, the error that the status at this
path would give where something else is in the way, an error of the text, an error of the settings,
or the settings that the text says.  No error is of a missing file, and all settings have a tick and
a history, also those of a session.  It does not matter in which order the text gives them and what
else it gives. -/
theorem FileTree.readConfig_classified (t : FileTree) (path : String) :
    (∀ r, t.readConfig path = r ↔ t.Loads path r) ∧
    (∀ p fault, t.readConfig path = .error (.unreadable p fault) ↔
      fault ≠ .notFound ∧ t.readStatus path = .error (.unreadable p fault)) ∧
    (∀ e, t.readConfig path = .error e → e.isNotFound = false) ∧
    (∀ c, t.readConfig path = .ok c → 1 ≤ c.tickMillis.toNat ∧ 1 ≤ c.historyLength.toNat) ∧
    (∀ (s : SessionInput), 1 ≤ (s.settings t).1.tickMillis.toNat ∧
      1 ≤ (s.settings t).1.historyLength.toNat) ∧
    (∀ (t' : FileTree) (path' document document' : String) (ms ms' others : List (Units × Value)),
      t.Holds path document → t'.Holds path' document' →
      (Value.object ms).SpelledBy document → (Value.object ms').SpelledBy document' →
      (others ++ ms).Perm ms' → Paired ms' →
      (∀ m ∈ others, ∀ f ∈ Config.record.fields, ¬ Names m.1 f.name) →
      ∀ c, t'.readConfig path' = .ok c ↔ t.readConfig path = .ok c) := by
  refine ⟨fun r => readConfig_eq_iff, fun p fault => ?_, fun e he => ?_,
    fun c => runnable_of_readConfig, fun s => s.runnable_settings t, ?_⟩
  · rw [readConfig_eq_unreadable_iff, readStatus_eq_unreadable_iff]
  · cases readConfig_eq_iff.1 he with
    | @unreadable fault _ hne => cases fault <;> first | rfl | exact absurd rfl hne
    | _ => rfl
  · intro t' path' document document' ms ms' others htext htext' hd hd' hperm hp ho c
    rw [readConfig_eq_ok_iff_of_holds htext, readConfig_eq_ok_iff_of_holds htext',
      Config.says_reordered others hd hd' hperm hp ho]

end ShaperDash
