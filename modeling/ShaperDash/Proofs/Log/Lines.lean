import ShaperDash.Log.Sink
import ShaperDash.Proofs.File.Growth

/-!
# The lines of the log

The log is known by its lines.  Events whose texts have no line end add one line each.

* `FileTree.HasLines` : the file at a route is made of these lines.
* `FileTree.HasLines.unique` : a file is made of its lines in one way only.
* `FileTree.HasLog.record` : what the log holds after events are recorded.
* `FileTree.hasLines_of_hasLog` : **one line for each event**, if no text has a line end.
* `Filter.passes_trace` : the filter that lets everything pass.
-/

namespace ShaperDash

/-! ### Texts of lines -/

/-- The line of an event without its end. -/
def LogEvent.lineText (stamp : String) (e : LogEvent) : String :=
  stamp ++ " " ++ String.ofList (List.replicate (5 - e.level.name.length) ' ') ++ e.level.name ++
    " " ++ e.text

theorem LogEvent.line_eq (stamp : String) (e : LogEvent) :
    e.line stamp = e.lineText stamp ++ "\n" := rfl

example : (LogEvent.statusMissing "s.json").lineText "12:00" =
    "12:00 DEBUG status file not present yet path=s.json" := by decide +kernel

theorem LogEvent.not_mem_lineText {stamp : String} {e : LogEvent} (hs : '\n' ∉ stamp.toList)
    (he : '\n' ∉ e.text.toList) : '\n' ∉ (e.lineText stamp).toList := by
  have hname : '\n' ∉ e.level.name.toList := by cases e.level <;> decide
  have hpad : ∀ n, '\n' ∉ List.replicate n ' ' := fun n h => by
    simpa using List.eq_of_mem_replicate h
  simp [lineText, hs, he, hname, hpad]

/-- A text of lines, each with its end, is cut at the ends into the lines and nothing behind. -/
theorem splitOn_join_lines {ls : List String} (h : ∀ l ∈ ls, '\n' ∉ l.toList) :
    (String.join (ls.map (· ++ "\n"))).toList.splitOn '\n' = ls.map String.toList ++ [[]] := by
  induction ls with
  | nil => rfl
  | cons l ls ih =>
    obtain ⟨hl, hls⟩ := List.forall_mem_cons.1 h
    rw [List.map_cons, String.join_cons, String.toList_append, String.toList_append,
      List.append_assoc]
    exact (List.splitOn_append_cons_self_of_not_mem hl _).trans (congrArg _ (ih hls))

/-! ### The log -/

namespace FileTree

variable {t : FileTree} {r : Route} {bytes : ByteArray} {sink : LogSink}

/-- The file at the route is made of these lines, each with its end. -/
def HasLines (t : FileTree) (r : Route) (ls : List String) : Prop :=
  ∃ text : String, t.entry? r = some (.file text.toUTF8) ∧
    text.toList.splitOn '\n' = ls.map String.toList ++ [[]]

/-- A file is made of its lines in one way only. -/
theorem HasLines.unique {ls ls' : List String} (h : t.HasLines r ls) (h' : t.HasLines r ls') :
    ls = ls' := by
  obtain ⟨text, hfile, hls⟩ := h
  obtain ⟨text', hfile', hls'⟩ := h'
  have hbytes : text.toUTF8 = text'.toUTF8 := by simpa using hfile.symm.trans hfile'
  obtain rfl : text = text' := String.toByteArray_inj.1 hbytes
  have hmap : ls.map String.toList = ls'.map String.toList :=
    List.append_cancel_right (hls.symm.trans hls')
  exact List.map_injective_iff.2 (fun _ _ => String.toList_inj.1) hmap

/-- What a sink writes of events. -/
def recorded (sink : LogSink) (events : List LogEvent) : String :=
  String.join ((events.filter sink.filter.passes).map (LogEvent.line sink.stamp))

theorem recorded_append (sink : LogSink) (a b : List LogEvent) :
    recorded sink (a ++ b) = recorded sink a ++ recorded sink b := by
  rw [recorded, List.filter_append, List.map_append, String.join_append]
  rfl

theorem record_some (sink : LogSink) (events : List LogEvent) :
    t.record (some sink) events = t.append sink.route (recorded sink events) := rfl

theorem HasLog.record (h : t.HasLog sink.route bytes) (events : List LogEvent) :
    (t.record (some sink) events).HasLog sink.route
      (bytes ++ (recorded sink events).toUTF8) := h.append _

/-- **One line for each event.** -/
theorem hasLines_of_hasLog {stamp : String} {events : List LogEvent}
    (h : t.HasLog r (String.join (events.map (LogEvent.line stamp))).toUTF8)
    (hs : '\n' ∉ stamp.toList) (he : ∀ e ∈ events, '\n' ∉ e.text.toList) :
    t.HasLines r (events.map (LogEvent.lineText stamp)) := by
  refine ⟨_, h.file, ?_⟩
  have hlines : events.map (LogEvent.line stamp) =
      (events.map (LogEvent.lineText stamp)).map (· ++ "\n") := by
    rw [List.map_map]
    rfl
  rw [hlines]
  refine splitOn_join_lines fun l hl => ?_
  obtain ⟨e, hmem, rfl⟩ := List.mem_map.1 hl
  exact LogEvent.not_mem_lineText hs (he e hmem)

end FileTree

/-! ### The filter that lets everything pass -/

theorem Filter.ofText?_trace : Filter.ofText? (some "trace") = [⟨none, none, none, 5⟩] := by
  decide +kernel

theorem Filter.passes_trace (e : LogEvent) : (Filter.ofText? (some "trace")).passes e = true := by
  have hrank : e.level.rank ≤ 5 := by cases e.level <;> decide
  simp [Filter.ofText?_trace, Filter.passes, Filter.directive?, Directive.appliesTo, hrank]

end ShaperDash
