import ShaperDash.Proofs.Log.LineEnds
import ShaperDash.Proofs.Session.Events

/-!
# Lines for events

Events are written to the log one behind the other, each with a line end of its own.  A text with
line ends that an event repeats as it is makes more than one line of it; only paths, and what the
settings give in place of the keyword of a palette, are repeated that way.

* `Config.words_of_decode`, `Status.words_of_decode` : errors of documents have no line end but
  from such a name.
* `SessionInput.Repeats` : the texts that the events of a session repeat.
* `SessionInput.lines_of_events` : **an event adds one line, and one more for each line end of the
  texts that it repeats**.
-/

namespace ShaperDash

/-! ### Errors of documents -/

section

open Json

theorem Config.words_of_decode {document : String} {e : DecodeError}
    (h : decode document = .error e) : e.cause.Words Unbroken fun _ => True := by
  refine Reader.Speaks.decode (Record.reader_speaks (P := Unbroken) rfl rfl ?_) h
  have hkeywords : Unbroken Palette.regular.keyword ∧ Unbroken Palette.metaverse.keyword :=
    ⟨rfl, rfl⟩
  have hpalette : Palette.reader.Speaks Unbroken fun _ => True :=
    Reader.variant_speaks rfl rfl (by simpa using hkeywords) fun _ => trivial
  simp only [record, List.forall_mem_cons]
  exact ⟨Field.of_speaks rfl (Reader.word64_speaks rfl), Field.of_speaks rfl hpalette,
    Field.of_speaks rfl (Reader.optionalPath_speaks rfl),
    Field.of_speaks rfl (Reader.word64_speaks rfl), Field.of_speaks rfl (Reader.count_speaks rfl),
    by simp⟩

/-- No document of a status gives a name where a keyword is wanted. -/
theorem Status.words_of_decode {document : String} {e : DecodeError}
    (h : decode document = .error e) : e.cause.Words Unbroken fun _ => False := by
  refine Reader.Speaks.decode (Record.reader_speaks (P := Unbroken) rfl rfl ?_) h
  have hhost : HostStats.record.reader.Speaks Unbroken fun _ => False := by
    refine Record.reader_speaks rfl rfl ?_
    simp only [HostStats.record, List.forall_mem_cons]
    exact ⟨Field.of_speaks rfl (Reader.text_speaks rfl),
      Field.of_speaks rfl
        (Reader.pair_speaks rfl (Reader.word64_speaks rfl) (Reader.word64_speaks rfl)),
      Field.of_speaks rfl (Reader.single_speaks rfl), by simp⟩
  have hpair : (Reader.word32.pair Reader.word32).Speaks Unbroken fun _ => False :=
    Reader.pair_speaks rfl (Reader.word32_speaks rfl) (Reader.word32_speaks rfl)
  simp only [record, List.forall_mem_cons]
  exact ⟨Field.of_speaks rfl (hpair.map _), Field.of_speaks rfl (Reader.boolean_speaks rfl),
    Field.of_speaks rfl (Reader.list_speaks rfl hhost),
    Field.of_speaks rfl (Reader.list_speaks rfl hhost), by simp⟩

end

/-! ### Errors of files -/

namespace FileTree

variable {t : FileTree} {path : String} {e : LoadError}

theorem words_of_readConfig (h : t.readConfig path = .error e) :
    e.Words Unbroken fun _ => True := by
  cases readConfig_eq_iff.1 h with
  | malformed _ _ hdecode => exact Config.words_of_decode hdecode
  | _ => trivial

/-- An error of a status repeats its path, if anything. -/
theorem words_of_readStatus (h : t.readStatus path = .error e) :
    (e.Words Unbroken fun _ => True) ∧ e.verbatim = [path] := by
  unfold readStatus at h
  split at h
  · cases h
    exact ⟨trivial, rfl⟩
  · next text _ =>
    cases hdecode : Status.decode text with
    | ok status => simp [hdecode, Except.mapError] at h
    | error f =>
      obtain rfl : LoadError.malformed path f = e := by simpa [hdecode, Except.mapError] using h
      have hwords := Status.words_of_decode hdecode
      refine ⟨hwords.mono fun _ => False.elim, ?_⟩
      rw [LoadError.verbatim, Json.Cause.verbatim_eq_nil hwords]

/-- An error of settings repeats their path, if anything, and what stands where a keyword of a
palette is wanted. -/
theorem verbatim_of_readConfig (h : t.readConfig path = .error e) {w : String}
    (hw : w ∈ e.verbatim) : w = path ∨ ∃ text fault, t.Holds path text ∧
      Config.decode text = .error fault ∧ w ∈ fault.cause.verbatim := by
  cases readConfig_eq_iff.1 h with
  | unreadable => exact .inl (by simpa [LoadError.verbatim] using hw)
  | malformed hholds _ hdecode =>
    obtain rfl | hname := List.mem_cons.1 hw
    · exact .inl rfl
    · exact .inr ⟨_, _, hholds, hdecode, hname⟩
  | _ => simp [LoadError.verbatim] at hw

end FileTree

/-! ### Events -/

namespace SessionInput

variable {s : SessionInput} {files t : FileTree} {e : LogEvent}

/-- The texts that the events of a session repeat as they are. -/
inductive Repeats (s : SessionInput) (files : FileTree) : String → Prop
  | settingsPath : Repeats s files s.environment.configPath
  /-- What the settings give where the keyword of a palette is wanted. -/
  | keyword {text w : String} {fault : Json.DecodeError} :
      (s.openLog files).1.Holds s.environment.configPath text →
      Config.decode text = .error fault → w ∈ fault.cause.verbatim → Repeats s files w
  | statusPath {w : String} : (s.settings files).1.statusFile = some w → Repeats s files w

/-- The words of the event have no line end, and the session knows the texts that it repeats. -/
structure Accounted (s : SessionInput) (files : FileTree) (e : LogEvent) : Prop where
  words : e.Words Unbroken fun _ => True
  repeats : ∀ w ∈ e.verbatim, s.Repeats files w

theorem accounted_of_mem_opening (h : e ∈ s.opening files) : s.Accounted files e := by
  rw [opening_eq] at h
  cases hload : (s.openLog files).1.loadConfig s.environment with
  | ok c =>
    obtain rfl : e = .starting c := by simpa [hload, Config.loadEvents] using h
    exact ⟨trivial, List.forall_mem_nil _⟩
  | error err =>
    simp only [hload, Config.loadEvents, List.mem_cons, List.not_mem_nil, or_false] at h
    obtain rfl | rfl := h
    · refine ⟨FileTree.words_of_readConfig hload, fun w hw => ?_⟩
      obtain rfl | ⟨text, fault, hholds, hdecode, hname⟩ :=
        FileTree.verbatim_of_readConfig hload hw
      · exact .settingsPath
      · exact .keyword hholds hdecode hname
    · exact ⟨trivial, List.forall_mem_nil _⟩

theorem accounted_of_arises (h : e.Arises (s.settings files).1.statusFile t) :
    s.Accounted files e := by
  cases h with
  | missing hpath => exact ⟨trivial, fun w hw => .statusPath (List.mem_singleton.1 hw ▸ hpath)⟩
  | failed hpath hread =>
    obtain ⟨hwords, hverbatim⟩ := FileTree.words_of_readStatus hread
    refine ⟨hwords, fun w hw => ?_⟩
    rw [LogEvent.verbatim, hverbatim, List.mem_singleton] at hw
    exact .statusPath (hw ▸ hpath)
  | _ => exact ⟨trivial, List.forall_mem_nil _⟩

theorem accounted_of_mem_events (h : e ∈ s.events files) : s.Accounted files e := by
  obtain h | ⟨t, h⟩ := s.mem_events h
  · exact accounted_of_mem_opening h
  · exact accounted_of_arises h

/-- **An event adds one line, and one more for each line end of the texts that it repeats.**  What a
session adds to its log, if that can be opened and other programs spare it, is the lines of the
events that pass, one behind the other.  An event is one line exactly if no text that it repeats has
a line end; the texts are paths of the session, and what the settings give in place of the keyword
of a palette. -/
theorem lines_of_events (hstamp : Unbroken s.stamp) :
    (∀ t, files.openLog (s.logRoute files) = some t → s.Spared files →
      (s.run files).files.HasLog (s.logRoute files) (files.priorBytes (s.logRoute files) ++
        (String.join (((s.events files).filter (Filter.ofText? s.logFilter).passes).map
          (LogEvent.line s.stamp))).toUTF8)) ∧
    ∀ e ∈ s.events files,
      lineEnds (e.line s.stamp) = 1 + lineEnds (String.join e.verbatim) ∧
      ((∃ l, Unbroken l ∧ e.line s.stamp = l ++ "\n") ↔ ∀ w ∈ e.verbatim, Unbroken w) ∧
      ∀ w ∈ e.verbatim, s.Repeats files w := by
  refine ⟨fun t hopen hspared => s.hasLog_run hopen hspared, fun e he => ?_⟩
  obtain ⟨hwords, hrepeats⟩ := accounted_of_mem_events he
  exact ⟨LogEvent.lineEnds_line hstamp hwords, LogEvent.isLine_iff hstamp hwords, hrepeats⟩

/-! ### A path that forges a line -/

/-- A path that goes on like a line of the log. -/
def forgedPath : String := "x\n2024-01-01T00:00:00Z  INFO exiting"

/-- Settings that name this path, with its line end as an escape. -/
def forgedFiles : FileTree :=
  (FileTree.ofWorkingDirectory ["home", "u"]).writeFile
    ["home", "u", ".config", "qosview", "config.json"]
    "\x7b\"status_file\":\"x\\n2024-01-01T00:00:00Z  INFO exiting\"\x7d".toUTF8

/-- A session that takes the terminal, updates its dashboard, is ended with a key and gives the
terminal back. -/
def forged : SessionInput where
  environment := ⟨none, none, "/home/u"⟩
  logFilter := some "qosview=debug"
  stamp := "2024-01-01T00:00:00Z"
  moments := [.still, .still, .typing ⟨.char 'q', false⟩, .still]

def forgedConfig : Config := ⟨1000, .regular, some forgedPath, 1, 60⟩

theorem events_forged : forged.events forgedFiles =
    [.starting forgedConfig, .statusMissing forgedPath, .inputWatched 0, .inputWatched 1,
      .exiting] := by
  decide +kernel

theorem openLog_forged : ∃ t, forgedFiles.openLog (forged.logRoute forgedFiles) = some t := by
  have hsome : (forgedFiles.openLog (forged.logRoute forgedFiles)).isSome = true := by
    decide +kernel
  exact Option.isSome_iff_exists.1 hsome

theorem spared_forged : forged.Spared forgedFiles := by
  intro m hm c hc
  have hnone : ∀ m ∈ forged.moments, m.changes = [] := by decide
  simp [hnone m hm] at hc

theorem priorBytes_forged : forgedFiles.priorBytes (forged.logRoute forgedFiles) = .empty := by
  decide +kernel

/-- The missing status is told with a line end in the midst. -/
theorem lines_of_forged :
    (forgedFiles.openLog (forged.logRoute forgedFiles)).isSome = true ∧ Unbroken forged.stamp ∧
      .statusMissing forgedPath ∈ forged.events forgedFiles ∧
      lineEnds ((LogEvent.statusMissing forgedPath).line forged.stamp) = 2 ∧
      ¬ ∃ l, Unbroken l ∧ (LogEvent.statusMissing forgedPath).line forged.stamp = l ++ "\n" := by
  obtain ⟨t, hopen⟩ := openLog_forged
  have hmem : .statusMissing forgedPath ∈ forged.events forgedFiles := by simp [events_forged]
  have hstamp : Unbroken forged.stamp := rfl
  obtain ⟨-, hevents⟩ := lines_of_events hstamp
  obtain ⟨hcount, hline, -⟩ := hevents _ hmem
  have hbroken : lineEnds forgedPath = 1 := rfl
  refine ⟨by rw [hopen]; rfl, hstamp, hmem, ?_, ?_⟩
  · rw [hcount]
    simp [LogEvent.verbatim, hbroken]
  · rw [hline]
    simp [LogEvent.verbatim, Unbroken, hbroken]

/-- Three events pass, and the log has four lines: the path has forged the end of a session. -/
theorem forged_end_of_session :
    (forged.events forgedFiles).filter (Filter.ofText? forged.logFilter).passes =
        [.starting forgedConfig, .statusMissing forgedPath, .exiting] ∧
      (forged.run forgedFiles).files.HasLines (forged.logRoute forgedFiles)
        ([.starting forgedConfig, .statusMissing "x", .exiting, .exiting].map
          (LogEvent.lineText forged.stamp)) := by
  have hpass : (forged.events forgedFiles).filter (Filter.ofText? forged.logFilter).passes =
      [.starting forgedConfig, .statusMissing forgedPath, .exiting] := by
    rw [events_forged]
    decide +kernel
  refine ⟨hpass, ?_⟩
  obtain ⟨t, hopen⟩ := openLog_forged
  have hlog := forged.hasLog_run hopen spared_forged
  have hforged : (LogEvent.statusMissing forgedPath).line forged.stamp =
      (LogEvent.statusMissing "x").line forged.stamp ++ LogEvent.exiting.line forged.stamp := by
    decide +kernel
  -- the line of the missing status reads as two lines
  have hjoin : String.join ([.starting forgedConfig, .statusMissing forgedPath, .exiting].map
        (LogEvent.line forged.stamp)) =
      String.join ([.starting forgedConfig, .statusMissing "x", .exiting, .exiting].map
        (LogEvent.line forged.stamp)) := by
    simp only [List.map_cons, String.join_cons, hforged, String.append_assoc]
  rw [hpass, hjoin, priorBytes_forged, ByteArray.empty_append] at hlog
  refine FileTree.hasLines_of_hasLog hlog (by decide) fun e he => ?_
  simp only [List.mem_cons, List.not_mem_nil, or_false] at he
  obtain rfl | rfl | rfl | rfl := he
  · exact LogEvent.not_mem_text (Q := fun _ => True) trivial (List.forall_mem_nil _)
  · exact LogEvent.not_mem_text (Q := fun _ => True) trivial (by simp [LogEvent.verbatim]; rfl)
  · exact LogEvent.not_mem_text (Q := fun _ => True) trivial (List.forall_mem_nil _)
  · exact LogEvent.not_mem_text (Q := fun _ => True) trivial (List.forall_mem_nil _)

end SessionInput

end ShaperDash
