import ShaperDash.Proofs.Config.Loading
import ShaperDash.Proofs.Integers
import ShaperDash.Proofs.Number.Numerals

/-!
# Settings that can start

The settings are checked when they are loaded, and the dashboard makes its history of them when the
terminal is already its own.  The check knows no greatest length of a history, a list does: the
settings from `2 ^ 60` rates on are accepted, and no dashboard starts with them.

* `History.ofLimit?_eq_some_iff` : the histories that can be held.
* `Dashboard.start?_eq_some_iff`, `Dashboard.start?_eq_none_iff` : which settings start.
* `Config.says_ofLength` : every length but zero can be set.
* `FileTree.accepted_settings_start` : **accepted settings start exactly up to that length**, the
  settings that take the place of others always do.
* `FileTree.not_accepted_settings_fit` : so accepted settings need not start.
-/

namespace ShaperDash

open Json

/-! ### Histories -/

namespace History

theorem zeros?_eq_some_iff {count : Nat} {xs : List UInt64} :
    zeros? count = some xs ↔ count * 8 ≤ maxBytes ∧ xs = List.replicate count 0 := by
  unfold zeros?
  split_ifs with h <;> simp [h, eq_comm]

/-- Both lists are of one length, so that they can be held together or not at all. -/
theorem ofLimit?_eq_some_iff {limit : Nat} {h : History} :
    ofLimit? limit = some h ↔ limit * 8 ≤ maxBytes ∧ h = ofLimit limit := by
  simp only [ofLimit?, ofLimit, Option.bind_eq_bind, Option.bind_eq_some_iff, Option.pure_def,
    zeros?_eq_some_iff, Option.some.injEq]
  constructor
  · rintro ⟨_, ⟨hfits, rfl⟩, _, ⟨-, rfl⟩, rfl⟩
    exact ⟨hfits, rfl⟩
  · rintro ⟨hfits, rfl⟩
    exact ⟨_, ⟨hfits, rfl⟩, _, ⟨hfits, rfl⟩, rfl⟩

theorem fits_iff {limit : Nat} : limit * 8 ≤ maxBytes ↔ limit < 2 ^ 60 := by
  rw [show maxBytes = 2 ^ 63 - 1 from rfl]
  omega

end History

/-! ### Dashboards -/

namespace Dashboard

variable {c : Config} {d : Dashboard}

/-- A dashboard that starts at all is the dashboard of its settings. -/
theorem start?_eq_some_iff :
    start? c = some d ↔ c.historyLength.toNat * 8 ≤ History.maxBytes ∧ d = start c := by
  simp only [start?, Option.bind_eq_bind, Option.bind_eq_some_iff, Option.pure_def,
    History.ofLimit?_eq_some_iff, Option.some.injEq]
  constructor
  · rintro ⟨_, ⟨hfits, rfl⟩, rfl⟩
    exact ⟨hfits, rfl⟩
  · rintro ⟨hfits, rfl⟩
    exact ⟨_, ⟨hfits, rfl⟩, rfl⟩

theorem start?_eq_none_iff : start? c = none ↔ 2 ^ 60 ≤ c.historyLength.toNat := by
  rw [Option.eq_none_iff_forall_ne_some, ← Nat.not_lt, ← History.fits_iff]
  constructor
  · exact fun h hfits => h _ (start?_eq_some_iff.2 ⟨hfits, rfl⟩)
  · exact fun h _ hd => h (start?_eq_some_iff.1 hd).1

end Dashboard

/-! ### Documents that set the length -/

theorem ofDigits_digitValues (n : Nat) : Json.ofDigits 0 (Json.digitValues (digitsOf n)) = n := by
  have hfold : ∀ (cs : List Char) (k : Nat),
      Json.ofDigits k (Json.digitValues cs) = Nat.ofDigitChars 10 cs k := by
    intro cs
    induction cs with
    | nil => exact fun k => rfl
    | cons c cs ih =>
      intro k
      rw [Nat.ofDigitChars_cons, ← ih, Nat.mul_comm 10 k]
      rfl
  rw [hfold, ofDigitChars_digitsOf]

namespace Config

variable {n : UInt64}

/-- A document that sets the length of the history and nothing else. -/
def ofLength (n : UInt64) : String := "\x7b\"history_len\":" ++ toString n ++ "\x7d"

theorem spelledBy_ofLength (hn : n ≠ 0) :
    (Value.object [(unitsOfName "history_len", wholeNumber (digitsOf n.toNat))]).SpelledBy
      (ofLength n) := by
  obtain ⟨c, cs, hcons⟩ := List.exists_cons_of_ne_nil (isDigits_digitsOf n.toNat).1
  have hdigits : (c :: cs).all Json.isDigit = true := by
    rw [← hcons]
    exact List.all_eq_true.2 (isDigits_digitsOf n.toNat).2
  have hhead : c ≠ '0' := by
    have := head_digitsOf (one_le_toNat hn)
    simpa [hcons] using this
  rw [hcons]
  refine spelledBy_member _ (by decide) (spells_wholeNumber hhead hdigits) ?_
  rw [← hcons, ofLength, String.toList_append, String.toList_append,
    show toString n = n.toNat.repr from rfl, Nat.toList_repr]
  rfl

/-- Every length but zero can be set. -/
theorem says_ofLength (hn : n ≠ 0) : Says (ofLength n) { default with historyLength := n } := by
  have hname := names_unitsOfName "history_len"
  have hothers : ∀ name : String, name ≠ "history_len" →
      valuesOf name [(unitsOfName "history_len", wholeNumber (digitsOf n.toNat))] = [] :=
    fun name hne => valuesOf_cons_of_ne hname hne _ _
  have hpaired : Paired [(unitsOfName "history_len", wholeNumber (digitsOf n.toNat))] :=
    List.forall_mem_singleton.2 ⟨_, hname⟩
  rw [says_object_iff (spelledBy_ofLength hn) hpaired]
  exact {
    tickMillis := .inl ⟨hothers _ (by decide), rfl⟩
    palette := .inl ⟨hothers _ (by decide), rfl⟩
    statusFile := .inl ⟨hothers _ (by decide), rfl⟩
    statusPollSeconds := .inl ⟨hothers _ (by decide), rfl⟩
    historyLength :=
      .inr ⟨_, valuesOf_cons hname _ _, _, rfl, rfl, rfl, rfl, ofDigits_digitValues n.toNat⟩ }

end Config

/-! ### Settings in files -/

namespace FileTree

variable {t : FileTree} {path text : String}

theorem readConfig_ofLength {n : UInt64} (hn : n ≠ 0) (h : t.Holds path (Config.ofLength n)) :
    t.readConfig path = .ok { Config.default with historyLength := n } := by
  have htick : Config.default.tickMillis ≠ 0 := by decide
  exact (readConfig_eq_ok_iff_of_holds h).2 ⟨Config.says_ofLength hn, htick, hn⟩

/-- The texts that are accepted and do not start. -/
theorem accepted_and_not_started_iff (h : t.Holds path text) :
    (∃ c, t.readConfig path = .ok c ∧ Dashboard.start? c = none) ↔
      ∃ c, Config.Says text c ∧ c.tickMillis ≠ 0 ∧ 2 ^ 60 ≤ c.historyLength.toNat := by
  refine exists_congr fun c => ?_
  rw [readConfig_eq_ok_iff_of_holds h, Dashboard.start?_eq_none_iff]
  constructor
  · exact fun ⟨⟨hgiven, htick, _⟩, hlong⟩ => ⟨hgiven, htick, hlong⟩
  · rintro ⟨hgiven, htick, hlong⟩
    refine ⟨⟨hgiven, htick, ?_⟩, hlong⟩
    intro hzero
    rw [hzero] at hlong
    exact absurd hlong (by decide)

end FileTree

/-- A session goes without a dashboard only because of settings that it has loaded. -/
theorem SessionInput.start?_settings_eq_none_iff (s : SessionInput) (files : FileTree) :
    Dashboard.start? (s.settings files).1 = none ↔
      ∃ c, (s.openLog files).1.loadConfig s.environment = .ok c ∧
        2 ^ 60 ≤ c.historyLength.toNat := by
  rw [Dashboard.start?_eq_none_iff, settings]
  cases (s.openLog files).1.loadConfig s.environment with
  | ok c => simp [Config.ofLoad]
  | error e =>
    -- the settings that take the place of refused ones are short
    have hdefault : Config.default.historyLength.toNat < 2 ^ 60 := by decide
    simpa [Config.ofLoad] using hdefault

/-- **Accepted settings start exactly if one list can hold their history.**  Settings that are
loaded, and so have passed the check, start if a signed word can count eight bytes for each of their
rates, that is below `2 ^ 60` rates, and then with a history of at least one rate, all of them zero;
longer ones do not start.  The texts of the latter are those that say settings with a tick and with
`2 ^ 60` rates or more, among them one for every such length.  A session never fails to start for
want of settings or because of refused ones. -/
theorem FileTree.accepted_settings_start (t : FileTree) (path : String) :
    (∀ c, t.readConfig path = .ok c →
      (Dashboard.start? c = none ↔ History.maxBytes < c.historyLength.toNat * 8) ∧
      ∀ d, Dashboard.start? c = some d →
        d = Dashboard.start c ∧ 1 ≤ d.history.limit ∧
          d.history.download = List.replicate d.history.limit 0 ∧
          d.history.upload = List.replicate d.history.limit 0) ∧
    (∀ text, t.Holds path text →
      ((∃ c, t.readConfig path = .ok c ∧ Dashboard.start? c = none) ↔
        ∃ c, Config.Says text c ∧ c.tickMillis ≠ 0 ∧ 2 ^ 60 ≤ c.historyLength.toNat)) ∧
    (∀ n : UInt64, n ≠ 0 → t.Holds path (Config.ofLength n) →
      t.readConfig path = .ok { Config.default with historyLength := n }) ∧
    ∀ s : SessionInput, Dashboard.start? (s.settings t).1 = none ↔
      ∃ c, (s.openLog t).1.loadConfig s.environment = .ok c ∧
        2 ^ 60 ≤ c.historyLength.toNat := by
  refine ⟨fun c hc => ⟨?_, fun d hd => ?_⟩, fun text => accepted_and_not_started_iff,
    fun n hn => readConfig_ofLength hn, fun s => s.start?_settings_eq_none_iff t⟩
  · rw [Dashboard.start?_eq_none_iff, ← Nat.not_lt, ← History.fits_iff, Nat.not_le]
  · obtain ⟨-, rfl⟩ := Dashboard.start?_eq_some_iff.1 hd
    exact ⟨rfl, (runnable_of_readConfig hc).2, rfl, rfl⟩

/-- A file system with one file. -/
def FileTree.ofSettings (text : String) : FileTree :=
  ⟨[(["config.json"], .file text.toUTF8)], []⟩

theorem FileTree.holds_ofSettings (text : String) : (ofSettings text).Holds "config.json" text :=
  ⟨["config.json"], resolve_eq_ok_iff.1 rfl, rfl⟩

/-- The greatest length that starts and the one after it. -/
theorem FileTree.accepted_settings_start_at_the_limit :
    let short : Config := ⟨1000, .regular, none, 1, 1152921504606846975⟩
    let long : Config := ⟨1000, .regular, none, 1, 1152921504606846976⟩
    (ofSettings (Config.ofLength short.historyLength)).readConfig "config.json" = .ok short ∧
      Dashboard.start? short ≠ none ∧
      (ofSettings (Config.ofLength long.historyLength)).readConfig "config.json" = .ok long ∧
      Dashboard.start? long = none := by
  intro short long
  obtain ⟨hstarts, -, hloaded, -⟩ :=
    accepted_settings_start (ofSettings (Config.ofLength short.historyLength)) "config.json"
  obtain ⟨hstarts', -, hloaded', -⟩ :=
    accepted_settings_start (ofSettings (Config.ofLength long.historyLength)) "config.json"
  have hshort := hloaded short.historyLength (by decide) (holds_ofSettings _)
  have hlong := hloaded' long.historyLength (by decide) (holds_ofSettings _)
  exact ⟨hshort, fun hnone => absurd ((hstarts _ hshort).1.1 hnone) (by decide), hlong,
    (hstarts' _ hlong).1.2 (by decide)⟩

/-- Accepted settings need not start: the check lets `2 ^ 60` rates pass, which no list can hold. -/
theorem FileTree.not_accepted_settings_fit :
    ¬ ∀ (t : FileTree) (path : String) (c : Config), t.readConfig path = .ok c →
      c.historyLength.toNat * 8 ≤ History.maxBytes := by
  intro h
  have hlong := readConfig_ofLength (n := 1152921504606846976) (by decide) (holds_ofSettings _)
  exact absurd (h _ _ _ hlong) (by decide)

end ShaperDash
