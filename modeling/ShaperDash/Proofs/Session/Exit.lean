import ShaperDash.Proofs.Session.Events

/-!
# How sessions end

Settings, the terminal, keys and the clock end a session.  What the dashboard shows has no part in
that, nor has the log.

* `Stage.Alike.step` : stages that differ in what their dashboards show lead to such stages.
* `SessionInput.exitCode_run_congr` : exit codes depend on the settings and the moments.
* `SessionInput.run_of_start?_eq_none`, `SessionInput.exitCode_run_eq_overflowCode_iff` : **settings
  with which no dashboard starts**, and the exit code that tells them.
* `SessionInput.Beside` : files that differ in one place on the way to the log, so that the log can
  be opened among the ones and not among the others.
* `SessionInput.Beside.exitCodes_runs` : **sessions among such files have the same exit codes**.
-/

namespace ShaperDash

/-! ### Stages -/

namespace Stage

/-- The stages differ in what their dashboards show, if at all. -/
inductive Alike : Stage → Stage → Prop
  | entering (c : Config) : Alike (.entering c) (.entering c)
  | updating (r : Running) (d : Dashboard) :
    Alike (.updating r) (.updating { r with dashboard := d })
  | waiting (r : Running) (d : Dashboard) :
    Alike (.waiting r) (.waiting { r with dashboard := d })
  | leaving (failed : Bool) : Alike (.leaving failed) (.leaving failed)
  | ended (code : Nat) : Alike (.ended code) (.ended code)

namespace Alike

theorem refl (a : Stage) : Alike a a := by
  cases a <;> constructor

theorem goOn (r : Running) (d : Dashboard) (m : Moment) :
    Alike (r.goOn m) ({ r with dashboard := d }.goOn m) := by
  unfold Running.goOn
  split_ifs
  · exact .updating r d
  · exact .waiting r d

variable {a b : Stage} {files files' : FileTree} {m : Moment}

/-- **A step keeps stages alike**, whatever files it looks at. -/
theorem step (h : Alike a b) : Alike (a.step files m).1 (b.step files' m).1 := by
  cases h with
  | entering c => exact refl _
  | updating r d => exact .waiting _ _
  | waiting r d =>
    simp only [Stage.step, Running.wait]
    split_ifs
    · exact .leaving true
    · cases m.wait with
      | lost => exact .leaving true
      | nothing => exact goOn { r with watching := true } d m
      | key k =>
        dsimp only
        split_ifs
        · exact .leaving false
        · exact goOn ⟨r.tick, (r.dashboard.press k.key).1, r.lastTick, true⟩ _ m
  | leaving failed => exact refl _
  | ended code => exact .ended code

end Alike

/-- The session has entered, and has not ended because its dashboard did not start. -/
def Entered : Stage → Prop
  | .entering _ => False
  | .updating _ | .waiting _ | .leaving _ => True
  | .ended code => code ≠ overflowCode

theorem Entered.goOn (r : Running) (m : Moment) : (r.goOn m).Entered := by
  unfold Running.goOn
  split_ifs <;> trivial

theorem Entered.step {a : Stage} {files : FileTree} {m : Moment} (h : a.Entered) :
    (a.step files m).1.Entered := by
  cases a with
  | entering c => cases h
  | updating r => trivial
  | waiting r =>
    simp only [Stage.step, Running.wait]
    split_ifs
    · trivial
    · cases m.wait with
      | lost => trivial
      | nothing => exact goOn _ m
      | key k =>
        dsimp only
        split_ifs
        · trivial
        · exact goOn _ m
  | leaving failed =>
    simp only [Stage.step]
    split_ifs <;> simp [Entered, overflowCode]
  | ended code => exact h

/-- A session enters, or fails to, unless it has a terminal and its dashboard does not start. -/
theorem entered_step_entering {c : Config} {files : FileTree} {m : Moment} :
    ((Stage.entering c).step files m).1.Entered ↔
      ¬ (Dashboard.start? c = none ∧ m.terminal = true) := by
  cases hterm : m.terminal <;> cases hstart : Dashboard.start? c <;>
    simp [Stage.step, hterm, hstart, Entered, overflowCode]

end Stage

/-! ### Sessions -/

namespace Session

variable {x y : Session} {ms : List Moment}

theorem exitCode_congr (h : x.stage.Alike y.stage) : y.exitCode = x.exitCode := by
  unfold exitCode
  generalize x.stage = a, y.stage = b at h
  cases h <;> rfl

theorem exitCode_after_ne_overflowCode (h : x.stage.Entered) :
    (x.after ms).exitCode ≠ some Stage.overflowCode := by
  have hafter : (x.after ms).stage.Entered :=
    after_of_advance (P := fun y => y.stage.Entered) h fun _ hy _ _ => hy.step
  intro hcode
  unfold exitCode at hcode
  split at hcode
  · next code hstage =>
    rw [hstage] at hafter
    exact hafter (Option.some.inj hcode)
  · cases hcode

end Session

namespace SessionInput

variable {s s' : SessionInput} {files files' : FileTree}

theorem told_step_begin (s : SessionInput) (files : FileTree) (m : Moment) :
    ((s.begin files).step m).told = s.opening files ++
        ((Stage.entering (s.settings files).1).step (s.begin files).files m).2 ∧
      ((s.begin files).step m).stage =
        ((Stage.entering (s.settings files).1).step (s.begin files).files m).1 := by
  have hcode : (s.begin files).exitCode = none := by rw [Session.exitCode, stage_begin]
  have hstep := Session.told_step (m := m) hcode
  rwa [told_begin, stage_begin] at hstep

/-- Settings with which no dashboard starts are told, and then the session is over. -/
theorem run_of_start?_eq_none {enter : Moment} {ms : List Moment}
    (hmoments : s.moments = enter :: ms) (hterm : enter.terminal = true)
    (hstart : Dashboard.start? (s.settings files).1 = none) :
    s.events files = s.opening files ∧ (s.run files).exitCode = some Stage.overflowCode := by
  obtain ⟨htold, hstage⟩ := s.told_step_begin files enter
  simp only [Stage.step, hterm, hstart, Bool.not_true, Bool.false_eq_true, if_false,
    List.append_nil] at htold hstage
  have hended : ((s.begin files).step enter).exitCode = some Stage.overflowCode := by
    rw [Session.exitCode, hstage]
  have hrun : s.run files = (s.begin files).step enter := by
    rw [run, hmoments, Session.after_cons, Session.after_of_ended (by simp [hended])]
  rw [events, hrun]
  exact ⟨htold, hended⟩

/-- **Only where the dashboard does not start a session ends in that way.** -/
theorem exitCode_run_eq_overflowCode_iff :
    (s.run files).exitCode = some Stage.overflowCode ↔
      Dashboard.start? (s.settings files).1 = none ∧
        ∃ enter ms, s.moments = enter :: ms ∧ enter.terminal = true := by
  constructor
  · intro hcode
    cases hmoments : s.moments with
    | nil => simp [run, hmoments, Session.after, Session.exitCode, stage_begin] at hcode
    | cons enter ms =>
      obtain ⟨-, hstage⟩ := s.told_step_begin files enter
      rw [run, hmoments, Session.after_cons] at hcode
      generalize (s.begin files).step enter = y at hcode hstage
      have hnot : ¬ y.stage.Entered := fun hentered =>
        Session.exitCode_after_ne_overflowCode hentered hcode
      rw [hstage, Stage.entered_step_entering, not_not] at hnot
      exact ⟨hnot.1, enter, ms, rfl, hnot.2⟩
  · rintro ⟨hstart, enter, ms, hmoments, hterm⟩
    exact (run_of_start?_eq_none hmoments hterm hstart).2

/-! ### Files that differ on the way to the log -/

/-- The session with another filter of its log. -/
def under (s : SessionInput) (f : Option String) : SessionInput := { s with logFilter := f }

/-- The files differ in one place on the way to the log, if at all.  Directories lead to that place,
and the settings are read without coming through it. -/
structure Beside (s : SessionInput) (p : Route) (files files' : FileTree) : Prop where
  nonempty : p ≠ []
  onTheWay : p <+: s.logRoute files
  parents : files.Parents p
  settingsApart : files.Avoids s.environment.configPath p
  sameOutside : FileTree.SameOutside p files files'

end SessionInput

namespace Session

/-- Two sessions in such files, whose logs are below the place if they are open. -/
structure Beside (p : Route) (x y : Session) : Prop where
  stage : x.stage.Alike y.stage
  sink : ∀ k ∈ x.sink, p <+: k.route
  sink' : ∀ k ∈ y.sink, p <+: k.route
  parents : x.files.Parents p
  sameOutside : FileTree.SameOutside p x.files y.files

variable {x y : Session} {m : Moment} {p r : Route}

theorem Beside.advance (h : x.Beside p y) (hne : p ≠ []) (hp : p <+: r)
    (hm : ∀ c ∈ m.changes, c.Spares r) : (x.advance m).Beside p (y.advance m) := by
  -- both write below the place only, and others do the same to the files of both
  have hwrite := h.parents.sameOutside_record h.sink (x.stage.step x.files m).2
  have hwrite' :=
    (h.sameOutside.parents hne h.parents).sameOutside_record h.sink' (y.stage.step y.files m).2
  exact ⟨h.stage.step, h.sink, h.sink', (hwrite.parents hne h.parents).changes hp hm,
    ((hwrite.symm.trans h.sameOutside).trans hwrite').changes m.changes⟩

end Session

namespace SessionInput

section

variable {s : SessionInput} {files : FileTree} {p : Route}

theorem route_of_mem_openLog {k : LogSink} (hk : k ∈ (s.openLog files).2) :
    k.route = s.logRoute files := by
  cases hopen : files.openLog (s.logRoute files) with
  | none => simp [s.openLog_eq_of_none hopen] at hk
  | some t =>
    obtain rfl : s.logSink files = k := by simpa [s.openLog_eq hopen] using hk
    rfl

theorem prefix_route_of_mem_openLog (hp : p <+: s.logRoute files) :
    ∀ k ∈ (s.openLog files).2, p <+: k.route := fun _ hk => (route_of_mem_openLog hk).symm ▸ hp

/-- The log is opened without a change outside the place on the way to it. -/
theorem sameOutside_self_openLog (hne : p ≠ []) (hparents : files.Parents p)
    (hp : p <+: s.logRoute files) : FileTree.SameOutside p files (s.openLog files).1 := by
  cases hopen : files.openLog (s.logRoute files) with
  | none =>
    rw [s.openLog_eq_of_none hopen]
    exact .refl p files
  | some t =>
    rw [s.openLog_eq hopen]
    exact hparents.sameOutside_openLog hne hp hopen

end

namespace Beside

variable {s : SessionInput} {files files' : FileTree} {p : Route}
variable (h : s.Beside p files files') (f : Option String)

include h

theorem logRoute_eq : s.logRoute files' = s.logRoute files :=
  FileTree.routeOf_congr h.sameOutside.workingDirectory _

theorem sameOutside_openLog :
    FileTree.SameOutside p (s.openLog files).1 ((s.under f).openLog files').1 := by
  have hlog := sameOutside_self_openLog h.nonempty h.parents h.onTheWay
  have hlog' := sameOutside_self_openLog (s := s.under f) h.nonempty
    (h.sameOutside.parents h.nonempty h.parents) (h.logRoute_eq.symm ▸ h.onTheWay)
  exact (hlog.symm.trans h.sameOutside).trans hlog'

/-- Both find the same settings. -/
theorem settings_under : (s.under f).settings files' = s.settings files := by
  have havoid := h.settingsApart.congr (s.workingDirectory_openLog files)
  have hread := (h.sameOutside_openLog f).readText havoid
  simp only [settings, FileTree.loadConfig, FileTree.readConfig]
  rw [← hread]
  rfl

theorem begin_under : (s.begin files).Beside p ((s.under f).begin files') := by
  have hsink := prefix_route_of_mem_openLog h.onTheWay
  have hsink' := prefix_route_of_mem_openLog (s := s.under f) (h.logRoute_eq.symm ▸ h.onTheWay)
  have hlog := sameOutside_self_openLog h.nonempty h.parents h.onTheWay
  have hparents := hlog.parents h.nonempty h.parents
  have hsame := h.sameOutside_openLog f
  have hwrite := hparents.sameOutside_record hsink (s.opening files)
  have hwrite' := (hsame.parents h.nonempty hparents).sameOutside_record hsink'
    ((s.under f).opening files')
  refine ⟨?_, ?_, ?_, ?_, ?_⟩
  · rw [stage_begin, stage_begin, h.settings_under]
    exact .entering _
  · rw [sink_begin]
    exact hsink
  · rw [sink_begin]
    exact hsink'
  · rw [files_begin]
    exact hwrite.parents h.nonempty hparents
  · rw [files_begin, files_begin]
    exact (hwrite.symm.trans hsame).trans hwrite'

theorem run_under (hspared : s.Spared files) : (s.run files).Beside p ((s.under f).run files') :=
  Session.after_together (R := Session.Beside p) (h.begin_under f)
    (fun _ _ hxy => Session.exitCode_congr hxy.stage)
    fun _ _ hxy m hm => hxy.advance h.nonempty h.onTheWay (hspared m hm)

/-- The next session finds files that differ in the same place, if at all. -/
theorem next (hspared : s.Spared files) :
    s.Beside p (s.run files).files ((s.under f).run files').files := by
  have hrun := h.run_under f hspared
  exact ⟨h.nonempty, s.logRoute_run files ▸ h.onTheWay, hrun.parents,
    h.settingsApart.congr (s.workingDirectory_run files), hrun.sameOutside⟩

end Beside

end SessionInput

end ShaperDash
