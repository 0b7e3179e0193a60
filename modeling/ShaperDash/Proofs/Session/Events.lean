import ShaperDash.Proofs.Config.Loading
import ShaperDash.Proofs.File.Changes
import ShaperDash.Proofs.File.Places
import ShaperDash.Proofs.Log.Lines

/-!
# The events of a session

A session tells its settings when it begins, and after that only what its dashboard, its keys and
its terminal give rise to.  What it has told is in its log, as far as the filter let it pass.

* `LogEvent.Arises` : what can be told once the settings are known.
* `Stage.arises_of_mem_step`, `Stage.source?_step` : what one step tells, and what it keeps.
* `Session.after_of_advance`, `Session.after_together` : what every stage keeps holds after all
  moments, of one session and of two.
* `SessionInput.mem_events` : **what a session tells**, over all of its moments.
* `SessionInput.opening_prefix_events` : the settings come first.
* `Session.Logs`, `SessionInput.logs_run` : **what the log holds after a session**, if other
  programs spare it.
-/

namespace ShaperDash

/-! ### What can be told -/

/-- What a session can have to tell once it knows its settings; `source` is the path of its status
file, which it looks for among the files. -/
inductive LogEvent.Arises (source : Option String) (files : FileTree) : LogEvent → Prop
  | sampled (t : Traffic) : Arises source files (.throughputSampled t)
  | reload : Arises source files .reloadRequired
  | missing {path : String} : source = some path → Arises source files (.statusMissing path)
  | failed {path : String} {e : LoadError} : source = some path →
      files.readStatus path = .error e → Arises source files (.pollFailed e)
  | watched (place : Nat) : Arises source files (.inputWatched place)
  | toggled (p : Palette) : Arises source files (.paletteToggled p)
  | exiting : Arises source files .exiting

namespace Dashboard

variable {d : Dashboard} {c : Config} {files : FileTree} {e : LogEvent}

theorem arises_of_mem_observe {r : Reading} (h : e ∈ (d.observe r).2) (source : Option String) :
    e.Arises source files := by
  unfold observe at h
  split at h
  · cases h
  · obtain rfl := List.mem_singleton.1 h
    exact .sampled _

theorem arises_of_mem_pollStatus {now : Nat} (h : e ∈ (d.pollStatus files now).2) :
    e.Arises d.statusSource files := by
  unfold pollStatus at h
  split at h
  · cases h
  · next p hp =>
    have hsource : d.statusSource = some p.path := by rw [statusSource, hp, Option.map_some]
    split_ifs at h
    · cases h
    · simp only [Poller.poll] at h
      cases hread : files.readStatus p.path with
      | ok status =>
        simp only [hread] at h
        split_ifs at h
        · obtain rfl := List.mem_singleton.1 h
          exact .reload
        · cases h
      | error err =>
        simp only [hread] at h
        split_ifs at h
        · obtain rfl := List.mem_singleton.1 h
          exact .missing hsource
        · obtain rfl := List.mem_singleton.1 h
          exact .failed hsource hread

theorem arises_of_mem_press {k : Key} (h : e ∈ (d.press k).2) (source : Option String) :
    e.Arises source files := by
  unfold press at h
  split_ifs at h
  · obtain rfl := List.mem_singleton.1 h
    exact .toggled _
  · cases h

theorem statusSource_observe (r : Reading) : (d.observe r).1.statusSource = d.statusSource := by
  unfold observe
  split <;> rfl

theorem statusSource_pollStatus (now : Nat) :
    (d.pollStatus files now).1.statusSource = d.statusSource := by
  unfold pollStatus
  split
  · rfl
  · next p hp =>
    simp only [statusSource, hp]
    split_ifs
    · rw [hp]
    · simp only [Poller.poll]
      split <;> rfl

theorem statusSource_press (k : Key) : (d.press k).1.statusSource = d.statusSource := by
  unfold press
  split_ifs <;> rfl

theorem statusSource_update (s : Surroundings) :
    (d.update s).1.statusSource = d.statusSource := by
  unfold update
  rw [statusSource_pollStatus]
  exact statusSource_observe s.reading

theorem arises_of_mem_update {s : Surroundings} (h : e ∈ (d.update s).2) :
    e.Arises d.statusSource s.files := by
  unfold update at h
  obtain h | h := List.mem_append.1 h
  · exact arises_of_mem_observe h _
  · have harises := arises_of_mem_pollStatus h
    rwa [show ((d.observe s.reading).1.measure s.sample).statusSource = d.statusSource from
      statusSource_observe s.reading] at harises

theorem statusSource_of_start? (h : start? c = some d) : d.statusSource = c.statusFile := by
  simp only [start?, Option.bind_eq_bind, Option.bind_eq_some_iff, Option.pure_def,
    Option.some.injEq] at h
  obtain ⟨_, -, rfl⟩ := h
  unfold statusSource start
  cases c.statusFile <;> rfl

end Dashboard

/-! ### Steps -/

namespace Stage

variable {stage : Stage} {files : FileTree} {m : Moment} {e : LogEvent}

/-- The path of the status file. -/
def source? : Stage → Option String
  | .entering c => c.statusFile
  | .updating r | .waiting r => r.dashboard.statusSource
  | .leaving _ | .ended _ => none

theorem source?_goOn (r : Running) (m : Moment) :
    (r.goOn m).source? = r.dashboard.statusSource := by
  unfold Running.goOn
  split_ifs <;> rfl

/-- The path of the status file stays the same, as long as there is one. -/
theorem source?_step {path : String} (h : (stage.step files m).1.source? = some path) :
    stage.source? = some path := by
  cases stage with
  | entering c =>
    simp only [step] at h
    split_ifs at h
    · cases h
    · split at h
      · cases h
      · next d hd => rwa [source?, Dashboard.statusSource_of_start? hd] at h
  | updating r =>
    simp only [step, Running.update, source?] at h
    rwa [Dashboard.statusSource_update] at h
  | waiting r =>
    simp only [step, Running.wait] at h
    split_ifs at h
    · cases h
    · split at h
      · cases h
      · rwa [source?_goOn] at h
      · split_ifs at h
        · cases h
        · dsimp only at h
          rwa [source?_goOn, Dashboard.statusSource_press] at h
  | leaving failed =>
    simp only [step] at h
    cases hterm : m.terminal <;> simp [hterm, source?] at h
  | ended code => cases h

theorem arises_of_mem_watched {r : Running} (h : e ∈ r.watched) (source : Option String) :
    e.Arises source files := by
  simp only [Running.watched, LogEvent.keysWatched] at h
  split_ifs at h
  · cases h
  · simp only [List.mem_cons, List.not_mem_nil, or_false] at h
    obtain rfl | rfl := h <;> exact .watched _

/-- **What one step tells.** -/
theorem arises_of_mem_step (h : e ∈ (stage.step files m).2) : e.Arises stage.source? files := by
  cases stage with
  | entering c =>
    simp only [step] at h
    split_ifs at h
    · cases h
    · split at h <;> cases h
  | updating r => exact Dashboard.arises_of_mem_update h
  | waiting r =>
    simp only [step, Running.wait] at h
    split_ifs at h
    · cases h
    · split at h
      · exact arises_of_mem_watched h _
      · exact arises_of_mem_watched h _
      · split_ifs at h
        · exact arises_of_mem_watched h _
        · obtain h | h := List.mem_append.1 h
          · exact arises_of_mem_watched h _
          · exact Dashboard.arises_of_mem_press h _
  | leaving failed =>
    cases hterm : m.terminal with
    | false => simp [step, hterm] at h
    | true =>
      obtain rfl : e = .exiting := by simpa [step, hterm] using h
      exact .exiting
  | ended code => cases h

end Stage

theorem LogEvent.Arises.mono {a b : Option String} {files : FileTree} {e : LogEvent}
    (h : e.Arises a files) (hab : ∀ path, a = some path → b = some path) : e.Arises b files := by
  cases h with
  | sampled t => exact .sampled t
  | reload => exact .reload
  | missing hpath => exact .missing (hab _ hpath)
  | failed hpath hread => exact .failed (hab _ hpath) hread
  | watched place => exact .watched place
  | toggled p => exact .toggled p
  | exiting => exact .exiting

/-! ### Moments -/

namespace Session

variable {x : Session} {m : Moment} {ms : List Moment}

@[simp] theorem files_advance : (x.advance m).files =
    (x.files.record x.sink (x.stage.step x.files m).2).changes m.changes := rfl

@[simp] theorem told_advance :
    (x.advance m).told = x.told ++ (x.stage.step x.files m).2 := rfl

@[simp] theorem stage_advance : (x.advance m).stage = (x.stage.step x.files m).1 := rfl

theorem step_of_ended (h : x.exitCode.isSome = true) : x.step m = x := if_pos h

theorem step_of_exitCode_eq_none (h : x.exitCode = none) : x.step m = x.advance m := by
  have hsome : ¬ x.exitCode.isSome = true := by simp [h]
  exact if_neg hsome

/-- A step comes to nothing, or to what the stage does. -/
theorem step_cases (x : Session) (m : Moment) : x.step m = x ∨ x.step m = x.advance m := by
  cases h : x.exitCode with
  | none => exact .inr (step_of_exitCode_eq_none h)
  | some code => exact .inl (step_of_ended (by simp [h]))

/-- So does it for two sessions together, if both have ended or neither has. -/
theorem step_together {y : Session} (h : y.exitCode = x.exitCode) (m : Moment) :
    (x.step m = x ∧ y.step m = y) ∨ (x.step m = x.advance m ∧ y.step m = y.advance m) := by
  cases hx : x.exitCode with
  | none => exact .inr ⟨step_of_exitCode_eq_none hx, step_of_exitCode_eq_none (h.trans hx)⟩
  | some code => exact .inl ⟨step_of_ended (by simp [hx]), step_of_ended (by simp [h, hx])⟩

theorem told_step (h : x.exitCode = none) :
    (x.step m).told = x.told ++ (x.stage.step x.files m).2 ∧
      (x.step m).stage = (x.stage.step x.files m).1 := by
  rw [step_of_exitCode_eq_none h]
  exact ⟨told_advance, stage_advance⟩

theorem after_cons : x.after (m :: ms) = (x.step m).after ms := rfl

theorem after_of_ended (h : x.exitCode.isSome = true) : x.after ms = x := by
  induction ms with
  | nil => rfl
  | cons m ms ih => rw [after_cons, step_of_ended h, ih]

/-- **What every stage keeps holds after all moments.** -/
theorem after_of_advance {P : Session → Prop} (h : P x)
    (hadvance : ∀ y, P y → ∀ m ∈ ms, P (y.advance m)) : P (x.after ms) := by
  induction ms generalizing x with
  | nil => exact h
  | cons m ms ih =>
    have hnext : P (x.step m) := by
      obtain heq | heq := x.step_cases m
      · rwa [heq]
      · rw [heq]
        exact hadvance x h m List.mem_cons_self
    refine ih hnext ?_
    intro y hy m' hm'
    exact hadvance y hy m' (List.mem_cons_of_mem m hm')

/-- So does what the stages of two sessions keep, if that makes them end together. -/
theorem after_together {R : Session → Session → Prop} {y : Session} (h : R x y)
    (hcode : ∀ x y, R x y → y.exitCode = x.exitCode)
    (hadvance : ∀ x y, R x y → ∀ m ∈ ms, R (x.advance m) (y.advance m)) :
    R (x.after ms) (y.after ms) := by
  induction ms generalizing x y with
  | nil => exact h
  | cons m ms ih =>
    have hnext : R (x.step m) (y.step m) := by
      obtain ⟨hx, hy⟩ | ⟨hx, hy⟩ := step_together (hcode x y h) m
      · rwa [hx, hy]
      · rw [hx, hy]
        exact hadvance x y h m List.mem_cons_self
    refine ih hnext ?_
    intro x' y' h' m' hm'
    exact hadvance x' y' h' m' (List.mem_cons_of_mem m hm')

theorem workingDirectory_advance :
    (x.advance m).files.workingDirectory = x.files.workingDirectory := by
  rw [files_advance, FileTree.workingDirectory_changes, FileTree.workingDirectory_record]

/-- The log is open, and what was told is in it behind what it held before. -/
structure Logs (x : Session) (k : LogSink) (prior : ByteArray) : Prop where
  sink : x.sink = some k
  hasLog : x.files.HasLog k.route (prior ++ (FileTree.recorded k x.told).toUTF8)

theorem Logs.advance {k : LogSink} {prior : ByteArray} (h : x.Logs k prior)
    (hm : ∀ c ∈ m.changes, c.Spares k.route) : (x.advance m).Logs k prior := by
  refine ⟨h.sink, ?_⟩
  have hrecord := (h.hasLog.record (x.stage.step x.files m).2).changes hm
  rw [files_advance, told_advance, h.sink, FileTree.recorded_append]
  simpa [ByteArray.append_assoc] using hrecord

end Session

/-! ### Whole sessions -/

/-- The events of settings that were loaded, or could not be. -/
def Config.loadEvents : Except LoadError Config → List LogEvent
  | .error e => [.configRejected e, .starting .default]
  | .ok c => [.starting c]

namespace SessionInput

variable (s : SessionInput) {files t : FileTree} {e : LogEvent}

/-- The route of the log. -/
abbrev logRoute (files : FileTree) : Route := files.routeOf s.environment.logPath

/-- The log of the session, if it can be opened. -/
def logSink (files : FileTree) : LogSink := ⟨s.logRoute files, .ofText? s.logFilter, s.stamp⟩

theorem logSink_route (files : FileTree) : (s.logSink files).route = s.logRoute files := rfl

theorem openLog_eq (h : files.openLog (s.logRoute files) = some t) :
    s.openLog files = (t, some (s.logSink files)) := by
  rw [logSink]
  simp only [openLog, h]

theorem openLog_eq_of_none (h : files.openLog (s.logRoute files) = none) :
    s.openLog files = (files, none) := by
  simp only [openLog, h]

/-- The events of the settings. -/
def opening (files : FileTree) : List LogEvent :=
  (s.settings files).2 ++ [.starting (s.settings files).1]

theorem begin_eq (files : FileTree) : s.begin files =
    ⟨(s.openLog files).1.record (s.openLog files).2 (s.opening files), (s.openLog files).2,
      s.opening files, .entering (s.settings files).1⟩ := by
  simp only [begin, Stage.opening, opening, settings]

theorem files_begin (files : FileTree) : (s.begin files).files =
    (s.openLog files).1.record (s.openLog files).2 (s.opening files) := by rw [begin_eq]

theorem sink_begin (files : FileTree) : (s.begin files).sink = (s.openLog files).2 := by
  rw [begin_eq]

theorem told_begin (files : FileTree) : (s.begin files).told = s.opening files := by rw [begin_eq]

theorem stage_begin (files : FileTree) :
    (s.begin files).stage = .entering (s.settings files).1 := by rw [begin_eq]

theorem opening_eq (files : FileTree) :
    s.opening files = Config.loadEvents ((s.openLog files).1.loadConfig s.environment) := by
  rw [opening, settings]
  cases (s.openLog files).1.loadConfig s.environment <;> rfl

theorem workingDirectory_openLog (files : FileTree) :
    (s.openLog files).1.workingDirectory = files.workingDirectory := by
  cases h : files.openLog (s.logRoute files) with
  | none => rw [s.openLog_eq_of_none h]
  | some t =>
    rw [s.openLog_eq h]
    exact (FileTree.hasLog_of_openLog s.environment.routeOf_logPath_ne_nil h).2.1

theorem workingDirectory_after (files : FileTree) (ms : List Moment) :
    ((s.begin files).after ms).files.workingDirectory = files.workingDirectory := by
  have hbegin : (s.begin files).files.workingDirectory = files.workingDirectory := by
    rw [files_begin, FileTree.workingDirectory_record, s.workingDirectory_openLog]
  exact Session.after_of_advance
    (P := fun y => y.files.workingDirectory = files.workingDirectory) hbegin
    fun y hy m _ => Session.workingDirectory_advance.trans hy

theorem workingDirectory_run (files : FileTree) :
    (s.run files).files.workingDirectory = files.workingDirectory :=
  s.workingDirectory_after files s.moments

/-- Each session opens the log where the one before did. -/
theorem logRoute_run (files : FileTree) : s.logRoute (s.run files).files = s.logRoute files :=
  FileTree.routeOf_congr (s.workingDirectory_run files) _

/-- The events of a session, whether or not the filter lets them pass. -/
def events (files : FileTree) : List LogEvent := (s.run files).told

/-- The session looks for no status file but the one that the settings name, and has told nothing
but the settings and what can arise. -/
structure Knows (files : FileTree) (y : Session) : Prop where
  source : ∀ path, y.stage.source? = some path → (s.settings files).1.statusFile = some path
  told : ∀ e ∈ y.told, e ∈ s.opening files ∨ ∃ t, e.Arises (s.settings files).1.statusFile t

theorem Knows.advance {s : SessionInput} {y : Session} (h : s.Knows files y) (m : Moment) :
    s.Knows files (y.advance m) := by
  refine ⟨fun path hpath => h.source path (Stage.source?_step hpath), ?_⟩
  intro e he
  obtain he | he := List.mem_append.1 he
  · exact h.told e he
  · exact .inr ⟨_, (Stage.arises_of_mem_step he).mono h.source⟩

theorem knows_after (files : FileTree) (ms : List Moment) :
    s.Knows files ((s.begin files).after ms) := by
  have hbegin : s.Knows files (s.begin files) := by
    rw [begin_eq]
    exact ⟨fun path hpath => hpath, fun e he => .inl he⟩
  exact Session.after_of_advance (P := s.Knows files) hbegin fun _ hy m _ => hy.advance m

/-- **What a session tells**: its settings, and then what can arise, with the status file that the
settings name. -/
theorem mem_events (h : e ∈ s.events files) :
    e ∈ s.opening files ∨ ∃ t, e.Arises (s.settings files).1.statusFile t :=
  (s.knows_after files s.moments).told e h

/-- A session tells its settings first. -/
theorem opening_prefix_events (files : FileTree) : s.opening files <+: s.events files := by
  have hbegin : s.opening files <+: (s.begin files).told := by rw [told_begin]
  refine Session.after_of_advance (P := fun y => s.opening files <+: y.told) hbegin ?_
  intro y hy m _
  exact hy.trans (List.prefix_append y.told _)

/-- Other programs spare the log. -/
def Spared (files : FileTree) : Prop :=
  ∀ m ∈ s.moments, ∀ c ∈ m.changes, c.Spares (s.logRoute files)

theorem Spared.run {s : SessionInput} (h : s.Spared files) : s.Spared (s.run files).files := by
  unfold Spared
  rwa [s.logRoute_run]

theorem hasLog_opened (h : files.openLog (s.logRoute files) = some t) :
    t.HasLog (s.logSink files).route (files.priorBytes (s.logRoute files)) := by
  rw [logSink]
  exact (FileTree.hasLog_of_openLog s.environment.routeOf_logPath_ne_nil h).1

theorem logs_begin (h : files.openLog (s.logRoute files) = some t) :
    (s.begin files).Logs (s.logSink files) (files.priorBytes (s.logRoute files)) := by
  rw [begin_eq, s.openLog_eq h]
  exact ⟨rfl, (s.hasLog_opened h).record (s.opening files)⟩

/-- **What the log holds after a session.** -/
theorem logs_run (h : files.openLog (s.logRoute files) = some t) (hspared : s.Spared files) :
    (s.run files).Logs (s.logSink files) (files.priorBytes (s.logRoute files)) :=
  Session.after_of_advance
    (P := fun y => y.Logs (s.logSink files) (files.priorBytes (s.logRoute files))) (s.logs_begin h)
    fun _ hy m hm => hy.advance (hspared m hm)

/-- What a session adds to its log is the lines of the events that pass. -/
theorem hasLog_run (h : files.openLog (s.logRoute files) = some t) (hspared : s.Spared files) :
    (s.run files).files.HasLog (s.logRoute files) (files.priorBytes (s.logRoute files) ++
      (String.join (((s.events files).filter (Filter.ofText? s.logFilter).passes).map
        (LogEvent.line s.stamp))).toUTF8) :=
  (s.logs_run h hspared).hasLog

end SessionInput

/-- A moment in which nothing happens. -/
def Moment.still : Moment := ⟨true, .nothing, ⟨0, 0, "No Interface", 0⟩, none, 0, 0, []⟩

/-- A moment in which a key is pressed. -/
def Moment.typing (k : KeyPress) : Moment := { still with wait := .key k }

end ShaperDash
