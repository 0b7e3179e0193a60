import ShaperDash.Proofs.Config.Starting
import ShaperDash.Proofs.Log.LineEnds
import ShaperDash.Proofs.Session.Events

/-!
# What a session logs

With a filter that lets everything pass, a session whose keys end it before its second tick logs
what its settings, the status and its keys say, and sessions one after the other log the same again.

* `Typed`, `Course` : the moments of such a session, and the keys that they bring.
* `Session.after_of_typed`, `Session.after_of_course` : where such moments lead, and what is told on
  the way.
* `SessionInput.story` : what a session logs, told from the tree with its open log.
* `SessionInput.OpenIn.run` : a session logs its story and leaves all other files as they are.
* `SessionInput.lines_of_runs` : **the log of sessions one after the other**, line by line.
-/

namespace ShaperDash

/-! ### Other files stay as they are -/

/-- The events of the first look at the status, if there is a status file. -/
def Config.pollEvents (c : Config) (t : FileTree) : List LogEvent :=
  match c.statusFile with
  | none => []
  | some path =>
    match t.readStatus path with
    | .error e => if e.isNotFound then [.statusMissing path] else [.pollFailed e]
    | .ok status => if status.reloadRequired then [.reloadRequired] else []

namespace FileTree

variable {t t' : FileTree} {r : Route}

theorem SameBut.loadConfig {e : Environment} (h : SameBut (t.routeOf e.logPath) t t') :
    t'.loadConfig e = t.loadConfig e := by
  have hconfig : t.resolve e.configPath ≠ .ok (t.routeOf e.logPath) := fun hr =>
    e.routeOf_configPath_ne (eq_routeOf_of_resolve hr).symm
  simp only [FileTree.loadConfig, readConfig, h.readText hconfig]

theorem SameBut.pollEvents (h : SameBut r t t') {c : Config}
    (hc : ∀ path, c.statusFile = some path → t.resolve path ≠ .ok r) :
    c.pollEvents t' = c.pollEvents t := by
  unfold Config.pollEvents
  cases hfile : c.statusFile with
  | none => rfl
  | some path => simp only [readStatus, h.readText (hc path hfile)]

end FileTree

/-! ### Keys -/

/-- The events of toggles that begin with this palette. -/
def Palette.toggled (p : Palette) (n : Nat) : List LogEvent :=
  (List.range n).map fun i => .paletteToggled (if i % 2 = 0 then p.other else p)

theorem Palette.toggled_succ (p : Palette) (n : Nat) :
    p.toggled (n + 1) = .paletteToggled p.other :: p.other.toggled n := by
  simp only [toggled, List.range_succ_eq_map, List.map_cons, List.map_map, other_other]
  congr 1
  refine List.map_congr_left fun i _ => ?_
  -- each palette is the other of the one before
  rcases Nat.mod_two_eq_zero_or_one i with hi | hi
  · simp [hi, Nat.succ_eq_add_one, Nat.add_mod]
  · simp [hi, Nat.succ_eq_add_one, Nat.add_mod]

/-- How often keys toggle the palette: each `c` or `C` without control does. -/
def toggles (keys : List KeyPress) : Nat :=
  keys.countP fun k => Dashboard.isToggle k.key && !k.control

/-- A key that does not end the session toggles the palette or does nothing. -/
theorem toggled_cons {k : KeyPress} (hk : k.isQuit = false) (keys : List KeyPress) (d : Dashboard) :
    (d.press k.key).2 ++ (d.press k.key).1.palette.toggled (toggles keys) =
      d.palette.toggled (toggles (k :: keys)) := by
  cases ht : Dashboard.isToggle k.key with
  | false => simp [Dashboard.press, ht, toggles]
  | true =>
    -- a toggle with control would have ended the session
    have hc : k.control = false := by
      cases hc : k.control with
      | false => rfl
      | true => simp [KeyPress.isQuit, hc, ht] at hk
    simp [Dashboard.press, Dashboard.toggle, Palette.toggle, ht, hc, toggles,
      Palette.toggled_succ]

/-! ### Moments -/

/-- The moments bring these keys, then one that ends the session, and then the terminal is given
back.  The terminal works all the while, and no tick is over before the last key. -/
inductive Typed (lastTick tick : Nat) : List Moment → List KeyPress → Prop
  | quit {m leave : Moment} {ms : List Moment} {k : KeyPress} : m.terminal = true →
      m.wait = .key k → k.isQuit = true → leave.terminal = true →
      Typed lastTick tick (m :: leave :: ms) []
  | key {m : Moment} {ms : List Moment} {k : KeyPress} {keys : List KeyPress} :
      m.terminal = true → m.wait = .key k → k.isQuit = false → m.finished - lastTick < tick →
      Typed lastTick tick ms keys → Typed lastTick tick (m :: ms) (k :: keys)
  | nothing {m : Moment} {ms : List Moment} {keys : List KeyPress} : m.terminal = true →
      m.wait = .nothing → m.finished - lastTick < tick → Typed lastTick tick ms keys →
      Typed lastTick tick (m :: ms) keys

/-- The moments of a session with these settings: there is no terminal, or there is one, the
dashboard starts, and keys are typed of which the last ends the session. -/
inductive Course (c : Config) : List Moment → Option (List KeyPress) → Prop
  | blind {enter : Moment} {ms : List Moment} : enter.terminal = false → Course c (enter :: ms) none
  | shown {enter first : Moment} {ms : List Moment} {keys : List KeyPress} {d : Dashboard} :
      enter.terminal = true → Dashboard.start? c = some d →
      Typed enter.finished c.tickInterval ms keys → Course c (enter :: first :: ms) (some keys)

/-- Any keys of which the last ends the session can be typed before a tick is over. -/
theorem Typed.of_keys {tick : Nat} (htick : 0 < tick) {keys : List KeyPress} {quit : KeyPress}
    (hkeys : ∀ k ∈ keys, k.isQuit = false) (hquit : quit.isQuit = true) :
    Typed 0 tick (keys.map Moment.typing ++ [.typing quit, .still]) keys := by
  induction keys with
  | nil => exact .quit rfl rfl hquit rfl
  | cons k keys ih =>
    obtain ⟨hk, hkeys⟩ := List.forall_mem_cons.1 hkeys
    exact .key rfl rfl hk htick (ih hkeys)

theorem Running.goOn_of_lt {r : Running} {m : Moment} (h : m.finished - r.lastTick < r.tick) :
    r.goOn m = .waiting r := if_neg (Nat.not_le.2 h)

namespace Session

variable {x : Session} {m : Moment} {ms : List Moment} {r : Running}

/-- A step of a session that waits. -/
theorem step_of_waiting (h : x.stage = .waiting r) :
    (x.step m).told = x.told ++ (r.wait m).2 ∧ (x.step m).stage = (r.wait m).1 := by
  have hcode : x.exitCode = none := by rw [exitCode, h]
  have hstep := told_step (m := m) hcode
  rwa [h] at hstep

/-- The key that ends a session. -/
theorem after_quit {k : KeyPress} {leave : Moment} (h : x.stage = .waiting r)
    (hm : m.terminal = true) (hw : m.wait = .key k) (hk : k.isQuit = true)
    (hleave : leave.terminal = true) :
    (x.after (m :: leave :: ms)).told = x.told ++ (r.watched ++ [.exiting]) ∧
      (x.after (m :: leave :: ms)).exitCode = some 0 := by
  obtain ⟨htold, hstage⟩ := step_of_waiting (m := m) h
  have hwait : r.wait m = (.leaving false, r.watched) := by simp [Running.wait, hm, hw, hk]
  rw [hwait] at htold hstage
  have hcode : (x.step m).exitCode = none := by rw [exitCode, hstage]
  obtain ⟨htold', hstage'⟩ := told_step (m := leave) hcode
  rw [hstage] at htold' hstage'
  simp only [Stage.step, hleave, Bool.not_true, Bool.false_eq_true, if_false] at htold' hstage'
  have hended : ((x.step m).step leave).exitCode = some 0 := by rw [exitCode, hstage']
  rw [after_cons, after_cons, after_of_ended (by simp [hended]), hended, htold', htold]
  exact ⟨List.append_assoc .., rfl⟩

/-- **Keys lead to the end of a session**, and each toggle among them is told. -/
theorem after_of_typed {keys : List KeyPress} (hx : x.stage = .waiting r)
    (h : Typed r.lastTick r.tick ms keys) :
    (x.after ms).told =
        x.told ++ (r.watched ++ (r.dashboard.palette.toggled (toggles keys) ++ [.exiting])) ∧
      (x.after ms).exitCode = some 0 := by
  generalize hlast : r.lastTick = lastTick at h
  generalize htick : r.tick = tick at h
  -- the first wait opens the places that keys come from, so what is told depends on the stage
  induction h generalizing x r with
  | quit hm hw hk hleave => exact after_quit hx hm hw hk hleave
  | @key m ms k keys hm hw hk hlt _ ih =>
    obtain ⟨htold, hstage⟩ := step_of_waiting (m := m) hx
    let next : Running := ⟨r.tick, (r.dashboard.press k.key).1, r.lastTick, true⟩
    have hwait : r.wait m = (.waiting next, r.watched ++ (r.dashboard.press k.key).2) := by
      simp only [Running.wait, hm, hw, hk, Bool.not_true, Bool.false_eq_true, if_false]
      rw [Running.goOn_of_lt (by rwa [hlast, htick])]
    rw [hwait] at htold hstage
    obtain ⟨htold', hcode⟩ := ih hstage hlast htick
    refine ⟨?_, hcode⟩
    rw [after_cons, htold', htold, ← toggled_cons hk]
    simp [next, Running.watched]
  | @nothing m ms keys hm hw hlt _ ih =>
    obtain ⟨htold, hstage⟩ := step_of_waiting (m := m) hx
    have hwait : r.wait m = (.waiting { r with watching := true }, r.watched) := by
      simp only [Running.wait, hm, hw, Bool.not_true, Bool.false_eq_true, if_false]
      rw [Running.goOn_of_lt (by rwa [hlast, htick])]
    rw [hwait] at htold hstage
    obtain ⟨htold', hcode⟩ := ih hstage hlast htick
    refine ⟨?_, hcode⟩
    rw [after_cons, htold', htold]
    simp [Running.watched]

/-! ### A log that grows -/

/-- The tree is the one in which the log was opened, with what was told. -/
structure Appends (x : Session) (k : LogSink) (t : FileTree) : Prop where
  sink : x.sink = some k
  files : x.files = t.append k.route (FileTree.recorded k x.told)

theorem Appends.advance {k : LogSink} {t : FileTree} {bytes : ByteArray} (h : x.Appends k t)
    (hlog : t.HasLog k.route bytes) (hm : m.changes = []) : (x.advance m).Appends k t := by
  refine ⟨h.sink, ?_⟩
  rw [files_advance, told_advance, hm, h.sink, FileTree.recorded_append, ← hlog.append_append,
    ← h.files]
  rfl

end Session

/-! ### The story -/

/-- The exit code of a session that had a terminal, with some keys, or had none. -/
def Course.exitCode : Option (List KeyPress) → Nat
  | none => 1
  | some _ => 0

/-- What a session with these settings tells behind them: what the first look at the status finds,
the two places that keys come from, a toggle for each key that asks for it, and the end. -/
def Course.tale (c : Config) (t : FileTree) : Option (List KeyPress) → List LogEvent
  | none => []
  | some keys =>
    c.pollEvents t ++ (LogEvent.keysWatched ++ (c.palette.toggled (toggles keys) ++ [.exiting]))

theorem Dashboard.update_start (c : Config) (s : Surroundings) :
    ((start c).update s).2 = c.pollEvents s.files ∧ ((start c).update s).1.palette = c.palette := by
  unfold update pollStatus Config.pollEvents
  cases hfile : c.statusFile with
  | none => simp [start, observe, measure, hfile]
  | some path =>
    cases hread : s.files.readStatus path with
    | error e =>
      simp [start, observe, measure, hfile, Poller.ofPath, Poller.due, Poller.poll, hread]
    | ok status =>
      simp [start, observe, measure, hfile, Poller.ofPath, Poller.due, Poller.poll, hread,
        reloadWarning]

namespace Session

variable {x : Session} {c : Config} {k : LogSink} {t : FileTree} {bytes : ByteArray}
variable {ms : List Moment} {keys : Option (List KeyPress)}

/-- A session that knows its settings tells the tale of them. -/
theorem after_of_course (h : Course c ms keys) (hx : x.stage = .entering c) (happ : x.Appends k t)
    (hlog : t.HasLog k.route bytes) (hunchanged : ∀ m ∈ ms, m.changes = [])
    (hpoll : keys.isSome = true → ∀ text,
      c.pollEvents (t.append k.route text) = c.pollEvents t) :
    (x.after ms).told = x.told ++ Course.tale c t keys ∧
      (x.after ms).exitCode = some (Course.exitCode keys) := by
  have hcode : x.exitCode = none := by rw [exitCode, hx]
  cases h with
  | @blind enter ms hterm =>
    obtain ⟨htold, hstage⟩ := told_step (m := enter) hcode
    simp only [hx, Stage.step, hterm, Bool.not_false, if_true] at htold hstage
    have hended : (x.step enter).exitCode = some 1 := by rw [exitCode, hstage]
    rw [after_cons, after_of_ended (by simp [hended]), hended, htold]
    exact ⟨rfl, rfl⟩
  | @shown enter first ms keys d hterm hstart htyped =>
    obtain ⟨-, rfl⟩ := Dashboard.start?_eq_some_iff.1 hstart
    obtain ⟨htold, hstage⟩ := told_step (m := enter) hcode
    simp only [hx, Stage.step, hterm, Bool.not_true, Bool.false_eq_true, if_false, hstart,
      List.append_nil] at htold hstage
    have happ' := happ.advance (m := enter) hlog (hunchanged enter List.mem_cons_self)
    rw [← step_of_exitCode_eq_none hcode] at happ'
    rw [after_cons, after_cons]
    generalize x.step enter = y at htold hstage happ' ⊢
    have hcode' : y.exitCode = none := by rw [exitCode, hstage]
    obtain ⟨htold', hstage'⟩ := told_step (m := first) hcode'
    rw [hstage] at htold' hstage'
    -- the status is looked at when the log has already grown
    have hpoll' : c.pollEvents y.files = c.pollEvents t := by rw [happ'.files, hpoll rfl]
    obtain ⟨hevents, hpalette⟩ :=
      Dashboard.update_start c ⟨first.reading, first.sample, y.files, first.now⟩
    simp only [Stage.step, Running.update, hevents, hpoll'] at htold' hstage'
    obtain ⟨htold'', hended⟩ := after_of_typed hstage' htyped
    refine ⟨?_, hended⟩
    rw [htold'', htold', htold]
    simp [Course.tale, Running.watched, hpalette]

end Session

namespace SessionInput

variable (s : SessionInput)

/-- What a session logs if its log is open in a tree: an error if the settings could not be loaded,
the settings, and the tale of them. -/
def story (t : FileTree) (keys : Option (List KeyPress)) : List LogEvent :=
  Config.loadEvents (t.loadConfig s.environment) ++
    Course.tale (Config.ofLoad (t.loadConfig s.environment)).1 t keys

/-- The log of a session is open in a tree that others leave as it is, it is not the status file
that the session looks at, and the moments take their course. -/
structure OpenIn (t : FileTree) (bytes : ByteArray) (keys : Option (List KeyPress)) : Prop where
  hasLog : t.HasLog (s.logRoute t) bytes
  bare : t.Bare (s.logRoute t)
  apart : keys.isSome = true → ∀ path,
    (Config.ofLoad (t.loadConfig s.environment)).1.statusFile = some path →
      t.resolve path ≠ .ok (s.logRoute t)
  unchanged : ∀ m ∈ s.moments, m.changes = []
  course : Course (Config.ofLoad (t.loadConfig s.environment)).1 s.moments keys

/-- What a session writes in the end. -/
def storyText (t : FileTree) (keys : Option (List KeyPress)) : String :=
  String.join ((s.story t keys).map (LogEvent.line s.stamp))

variable {s} {files t : FileTree} {bytes : ByteArray} {keys : Option (List KeyPress)}

theorem recorded_of_trace (h : s.logFilter = some "trace") (events : List LogEvent) :
    FileTree.recorded (s.logSink files) events =
      String.join (events.map (LogEvent.line s.stamp)) := by
  have hall : events.filter (s.logSink files).filter.passes = events :=
    List.filter_eq_self.2 fun e _ => by
      simp only [logSink, h]
      exact Filter.passes_trace e
  rw [FileTree.recorded, hall]
  rfl

namespace OpenIn

variable (h : s.OpenIn t bytes keys)

include h

theorem openLog_eq : s.openLog t = (t, some (s.logSink t)) := s.openLog_eq h.hasLog.openLog

/-- Writing to the log changes nothing of what the next session finds. -/
theorem append (text : String) :
    s.OpenIn (t.append (s.logRoute t) text) (bytes ++ text.toUTF8) keys ∧
      s.logRoute (t.append (s.logRoute t) text) = s.logRoute t ∧
      s.story (t.append (s.logRoute t) text) keys = s.story t keys := by
  have hsame := h.hasLog.sameBut_append h.bare text
  have hhas := h.hasLog.append text
  have hbare := h.hasLog.bare_append text
  have hload := hsame.loadConfig
  have hroute := FileTree.routeOf_congr hsame.workingDirectory
  generalize t.append (s.logRoute t) text = t' at hsame hhas hbare hload hroute ⊢
  have hlog : s.logRoute t' = s.logRoute t := hroute s.environment.logPath
  refine ⟨⟨by rwa [hlog], by rwa [hlog], fun hterm path hpath => ?_, h.unchanged, ?_⟩, hlog, ?_⟩
  · rw [hload] at hpath
    rw [hlog, hsame.resolve_eq]
    exact h.apart hterm path hpath
  · rw [hload]
    exact h.course
  · rw [story, story, hload]
    cases keys with
    | none => rfl
    | some keys => simp only [Course.tale, hsame.pollEvents (h.apart rfl)]

/-- A session writes its story, and nothing else changes. -/
theorem run (htrace : s.logFilter = some "trace") :
    (s.run t).files = t.append (s.logRoute t) (s.storyText t keys) ∧
      (s.run t).exitCode = some (Course.exitCode keys) := by
  have hbegin : (s.begin t).Appends (s.logSink t) t := by
    refine ⟨?_, ?_⟩
    · rw [sink_begin, h.openLog_eq]
    · rw [files_begin, told_begin, h.openLog_eq]
      rfl
  have hstage : (s.begin t).stage = .entering (Config.ofLoad (t.loadConfig s.environment)).1 := by
    rw [stage_begin, settings, h.openLog_eq]
  have htold : (s.begin t).told = Config.loadEvents (t.loadConfig s.environment) := by
    rw [told_begin, opening_eq, h.openLog_eq]
  have hpoll (hterm : keys.isSome = true) (text : String) :=
    (h.hasLog.sameBut_append h.bare text).pollEvents (h.apart hterm)
  have happends : (s.run t).Appends (s.logSink t) t :=
    Session.after_of_advance (P := fun y => y.Appends (s.logSink t) t) hbegin
      fun y hy m hm => hy.advance h.hasLog (h.unchanged m hm)
  obtain ⟨hstory, hcode⟩ :=
    Session.after_of_course h.course hstage hbegin h.hasLog h.unchanged hpoll
  refine ⟨?_, hcode⟩
  have hevents : (s.run t).told = s.story t keys := by rw [SessionInput.run, hstory, htold, story]
  rw [happends.files, hevents, recorded_of_trace htrace, logSink_route, storyText]

/-- Sessions one after the other log the same story again. -/
theorem runs (htrace : s.logFilter = some "trace") (n : Nat) :
    ∃ t', s.runs n t = (t', List.replicate n (some (Course.exitCode keys))) ∧
      t'.HasLog (s.logRoute t)
        (bytes ++ (String.join ((List.replicate n (s.story t keys)).flatten.map
          (LogEvent.line s.stamp))).toUTF8) := by
  -- the tree grows from session to session, and each finds in it what the first found
  induction n generalizing t bytes with
  | zero => exact ⟨t, rfl, by simpa using h.hasLog⟩
  | succ n ih =>
    obtain ⟨hfiles, hcode⟩ := h.run htrace
    obtain ⟨hopen, hroute, hstory⟩ := h.append (s.storyText t keys)
    obtain ⟨t', hruns, hlog⟩ := ih hopen
    refine ⟨t', ?_, ?_⟩
    · simp only [SessionInput.runs, hfiles, hruns, hcode]
      rfl
    · rw [hroute, hstory] at hlog
      simpa [List.replicate_succ, String.join_append, storyText, ByteArray.append_assoc] using hlog

end OpenIn

/-! ### Sessions one after the other -/

/-- In a log that was empty, sessions one after the other leave the lines of their story. -/
theorem OpenIn.hasLines_runs (h : s.OpenIn t .empty keys) (htrace : s.logFilter = some "trace")
    (hstamp : '\n' ∉ s.stamp.toList) (htext : ∀ e ∈ s.story t keys, '\n' ∉ e.text.toList)
    (n : Nat) :
    (s.runs n t).1.HasLines (s.logRoute t)
        (List.replicate n ((s.story t keys).map (LogEvent.lineText s.stamp))).flatten ∧
      (s.runs n t).2 = List.replicate n (some (Course.exitCode keys)) := by
  obtain ⟨t', hruns, hlog⟩ := h.runs htrace n
  rw [hruns]
  refine ⟨?_, rfl⟩
  rw [ByteArray.empty_append] at hlog
  have hlines := FileTree.hasLines_of_hasLog hlog hstamp fun e he => ?_
  · rwa [List.map_flatten, List.map_replicate] at hlines
  · obtain ⟨story, hstory, hmem⟩ := List.mem_flatten.1 he
    obtain rfl := List.eq_of_mem_replicate hstory
    exact htext e hmem

/-- Everything may pass into the log, which is new and can be opened, and is not the status file;
the moments take their course, others leave the files as they are, and no text has a line end. -/
structure Undisturbed (s : SessionInput) (files t : FileTree) (keys : Option (List KeyPress)) :
    Prop where
  trace : s.logFilter = some "trace"
  opened : files.openLog (s.logRoute files) = some t
  new : files.entry? (s.logRoute files) = none
  apart : keys.isSome = true → ∀ path, (s.settings files).1.statusFile = some path →
    t.resolve path ≠ .ok (s.logRoute files)
  unchanged : ∀ m ∈ s.moments, m.changes = []
  course : Course (s.settings files).1 s.moments keys
  stamp : '\n' ∉ s.stamp.toList
  texts : ∀ e ∈ s.story t keys, '\n' ∉ e.text.toList

namespace Undisturbed

variable (h : s.Undisturbed files t keys)

include h

/-- The log is open, and empty, in the tree in which it can be written to. -/
theorem openIn :
    s.OpenIn t .empty keys ∧ s.logRoute t = s.logRoute files ∧ s.openLog files = s.openLog t := by
  obtain ⟨hhas, hdir, hbare⟩ :=
    FileTree.hasLog_of_openLog s.environment.routeOf_logPath_ne_nil h.opened
  have hlog : s.logRoute t = s.logRoute files :=
    FileTree.routeOf_congr hdir s.environment.logPath
  have hempty : files.priorBytes (s.logRoute files) = .empty := by
    simp only [FileTree.priorBytes, h.new]
  have hfiles := s.openLog_eq h.opened
  have hsettings : s.settings files = Config.ofLoad (t.loadConfig s.environment) := by
    rw [settings, hfiles]
  have hopenIn : s.OpenIn t .empty keys := by
    refine ⟨by rwa [hlog, ← hempty], by simpa only [hlog] using hbare h.new,
      fun hterm path hpath => ?_, h.unchanged, hsettings ▸ h.course⟩
    rw [hlog]
    refine h.apart hterm path ?_
    rwa [hsettings]
  refine ⟨hopenIn, hlog, ?_⟩
  rw [hfiles, hopenIn.openLog_eq, logSink, logSink, hlog]

/-- Sessions begin in the same way before and after the log is opened. -/
theorem runs_eq (n : Nat) : s.runs (n + 1) files = s.runs (n + 1) t := by
  obtain ⟨-, -, hfiles⟩ := h.openIn
  have hrun : s.run files = s.run t := by simp only [SessionInput.run, begin, hfiles]
  simp only [runs, hrun]

end Undisturbed

/-- **The log of sessions one after the other.**  Undisturbed sessions leave a log that is made of
the lines of the story, as often as there were sessions, and each ends with the code of a session
that had a terminal, or had none. -/
theorem lines_of_runs (h : s.Undisturbed files t keys) (n : Nat) :
    (s.runs (n + 1) files).1.HasLines (s.logRoute files)
        (List.replicate (n + 1) ((s.story t keys).map (LogEvent.lineText s.stamp))).flatten ∧
      (s.runs (n + 1) files).2 = List.replicate (n + 1) (some (Course.exitCode keys)) := by
  obtain ⟨hopenIn, hlog, -⟩ := h.openIn
  rw [h.runs_eq, ← hlog]
  exact hopenIn.hasLines_runs h.trace h.stamp h.texts (n + 1)

/-! ### A session -/

/-- Settings that name a status file and a palette. -/
def restlessFiles : FileTree :=
  (FileTree.ofWorkingDirectory ["home", "u"]).writeFile
    ["home", "u", ".config", "qosview", "config.json"]
    "\x7b\"palette\":\"metaverse\",\"status_file\":\"s.json\"\x7d".toUTF8

/-- Keys that toggle the palette twice. -/
def restlessKeys : List KeyPress :=
  [⟨.char 'c', false⟩, ⟨.named "Enter", true⟩, ⟨.char 'C', false⟩]

/-- A session in which these keys are typed, and then one that ends it. -/
def restless : SessionInput where
  environment := ⟨none, none, "/home/u"⟩
  logFilter := some "trace"
  stamp := "2024-01-01T00:00:00.000000Z"
  moments :=
    .still :: .still :: (restlessKeys.map .typing ++ [.typing ⟨.char 'C', true⟩, .still])

/-- The files of the session when the log is open. -/
def restlessOpen : FileTree :=
  (restlessFiles.openLog (restless.logRoute restlessFiles)).getD restlessFiles

def restlessConfig : Config := ⟨1000, .metaverse, some "s.json", 1, 60⟩

theorem openLog_restless :
    restlessFiles.openLog (restless.logRoute restlessFiles) = some restlessOpen := by
  have hsome : (restlessFiles.openLog (restless.logRoute restlessFiles)).isSome = true := by
    decide +kernel
  obtain ⟨t, ht⟩ := Option.isSome_iff_exists.1 hsome
  rw [restlessOpen, ht]
  rfl

theorem settings_restless : restless.settings restlessFiles = (restlessConfig, []) := by
  decide +kernel

/-- What the session logs, told event by event. -/
def restlessStory : List LogEvent :=
  [.starting restlessConfig, .statusMissing "s.json", .inputWatched 0, .inputWatched 1,
    .paletteToggled .regular, .paletteToggled .metaverse, .exiting]

theorem story_restless : restless.story restlessOpen (some restlessKeys) = restlessStory := by
  decide +kernel

theorem course_restless : Course restlessConfig restless.moments (some restlessKeys) := by
  have hstart : Dashboard.start? restlessConfig = some (.start restlessConfig) := by
    decide +kernel
  exact .shown rfl hstart (Typed.of_keys (by decide) (by decide) rfl)

theorem restless_undisturbed :
    restless.Undisturbed restlessFiles restlessOpen (some restlessKeys) where
  trace := rfl
  opened := openLog_restless
  new := by
    have hnone : (restlessFiles.entry? (restless.logRoute restlessFiles)).isNone = true := by
      decide +kernel
    exact Option.isNone_iff_eq_none.1 hnone
  apart _ path hpath := by
    rw [settings_restless] at hpath
    obtain rfl : "s.json" = path := Option.some.inj hpath
    decide +kernel
  unchanged := by decide
  course := by
    rw [settings_restless]
    exact course_restless
  stamp := by decide
  texts e he := by
    rw [story_restless] at he
    have hpath : Unbroken "s.json" := rfl
    have hwords : ∀ e ∈ restlessStory, e.Words Unbroken fun _ => True := by
      simp [restlessStory, LogEvent.Words]
    have hverbatim : ∀ e ∈ restlessStory, ∀ w ∈ e.verbatim, Unbroken w := by
      simpa [restlessStory, LogEvent.verbatim] using hpath
    exact LogEvent.not_mem_text (hwords e he) (hverbatim e he)

/-- Two such sessions leave the lines twice. -/
theorem lines_of_restless_runs :
    restless.Undisturbed restlessFiles restlessOpen (some restlessKeys) ∧
      (restless.runs 2 restlessFiles).1.HasLines (restless.logRoute restlessFiles)
        (List.replicate 2 (restlessStory.map (LogEvent.lineText restless.stamp))).flatten ∧
      (restless.runs 2 restlessFiles).2 = [some 0, some 0] := by
  obtain ⟨hlines, hcodes⟩ := lines_of_runs restless_undisturbed 1
  rw [story_restless] at hlines
  exact ⟨restless_undisturbed, hlines, hcodes⟩

/-- The settings, the status and the keys alone do not make the log: the places that keys come from
are in it as well. -/
theorem not_lines_of_settings_and_keys :
    restless.Undisturbed restlessFiles restlessOpen (some restlessKeys) ∧
      ¬ (restless.run restlessFiles).files.HasLines (restless.logRoute restlessFiles)
        ([.starting restlessConfig, .statusMissing "s.json", .paletteToggled .regular,
          .paletteToggled .metaverse, .exiting].map (LogEvent.lineText restless.stamp)) := by
  refine ⟨restless_undisturbed, fun h => ?_⟩
  obtain ⟨hopenIn, hlog, -⟩ := restless_undisturbed.openIn
  obtain ⟨hlines, -⟩ := hopenIn.hasLines_runs restless_undisturbed.trace
    restless_undisturbed.stamp restless_undisturbed.texts 1
  rw [← restless_undisturbed.runs_eq 0, hlog, story_restless] at hlines
  simp only [SessionInput.runs] at hlines
  -- a file has its lines in one way only, and two of them are missing
  have heq := h.unique hlines
  simpa [restlessStory] using congrArg List.length heq

end SessionInput

end ShaperDash
