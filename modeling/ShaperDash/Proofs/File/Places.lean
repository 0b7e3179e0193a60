import Mathlib.Tactic.SplitIfs
import ShaperDash.File.Load
import ShaperDash.Proofs.File.Growth
import ShaperDash.Proofs.File.Reading

/-!
# Where the settings and the log lie

A path that was joined ends with the name that was joined to it, so the settings and the log are
never the same file, wherever the directories of the user are.

* `names_joinPath` : the last name of a joined path.
* `Environment.routeOf_configPath_ne` : **the settings are not the log**.
-/

namespace ShaperDash

variable {base name : String} {t : FileTree}

theorem FileTree.names_append_slash {cs : List Char} (hn : '/' ∉ name.toList) :
    names (String.ofList (cs ++ '/' :: name.toList)) = names (String.ofList cs) ++ [name] := by
  simp [names, List.splitOn_append_cons_self, List.splitOn_eq_singleton hn]

/-- A joined path has the name as its last, whether or not the base ends with a slash. -/
theorem names_joinPath (hn : '/' ∉ name.toList) :
    ∃ front, FileTree.names (joinPath base name) = front ++ [name] := by
  unfold joinPath
  split_ifs with hbase
  · obtain rfl | hslash := hbase
    · exact ⟨[], by simp [FileTree.names, List.splitOn_eq_singleton hn]⟩
    · obtain ⟨cs, hcs⟩ := List.getLast?_eq_some_iff.1 hslash
      have heq : base ++ name = String.ofList (cs ++ '/' :: name.toList) := by
        rw [← String.toList_inj, String.toList_append, hcs]
        simp
      exact ⟨_, heq ▸ FileTree.names_append_slash hn⟩
  · have heq : base ++ "/" ++ name = String.ofList (base.toList ++ '/' :: name.toList) := by
      rw [← String.toList_inj]
      simp
    exact ⟨_, heq ▸ FileTree.names_append_slash hn⟩

theorem getLast?_routeOf_joinPath (hn : '/' ∉ name.toList) (ht : ¬ FileTree.Turns name) :
    (t.routeOf (joinPath base name)).getLast? = some name := by
  obtain ⟨front, hfront⟩ : ∃ front, FileTree.names (joinPath base name) = front ++ [name] :=
    names_joinPath hn
  simp only [FileTree.Turns, not_or] at ht
  simp [FileTree.routeOf, hfront, FileTree.advance, ht]

namespace Environment

variable (e : Environment)

theorem getLast?_routeOf_logPath : (t.routeOf e.logPath).getLast? = some "qosview.log" :=
  getLast?_routeOf_joinPath (by decide) (by simp [FileTree.Turns])

theorem routeOf_logPath_ne_nil : t.routeOf e.logPath ≠ [] := by
  intro h
  have hlast := e.getLast?_routeOf_logPath (t := t)
  simp [h] at hlast

/-- **The settings are not the log.** -/
theorem routeOf_configPath_ne : t.routeOf e.configPath ≠ t.routeOf e.logPath := by
  intro h
  have hconfig : (t.routeOf e.configPath).getLast? = some "config.json" :=
    getLast?_routeOf_joinPath (by decide) (by simp [FileTree.Turns])
  rw [h, e.getLast?_routeOf_logPath] at hconfig
  simp at hconfig

end Environment

end ShaperDash
