import ShaperDash.Proofs.Json.Lexemes
import ShaperDash.Proofs.Log.LineEnds
import ShaperDash.Proofs.Number.Numerals
import ShaperDash.Proofs.Session.Events
import ShaperDash.Proofs.Text.Quoted

/-!
# The settings in the log

A session begins with an event that describes its settings.  The description is read back part by
part: the digits of a word end where the next label begins, and a path ends with its closing mark,
so that no path can pass for the labels and values behind it.

* `Config.ofDescription?_describe` : **a description is read back as its settings**.
* `LogEvent.line_starting_inj` : so is the line of the log that holds it.
* `SessionInput.starting_mem_events_iff` : a session tells the settings that it runs with.
* `description_identifies` : **the settings in the log are the ones that the session runs with**.
-/

namespace ShaperDash

namespace Config

/-! ### Reading -/

/-- What is read behind a label at the beginning. -/
def behind? {α : Type} (label : String) (read : List Char → Option (α × List Char))
    (cs : List Char) : Option (α × List Char) :=
  (cs.dropPrefix? label.toList).bind read

/-- The word that the digits at the beginning spell, and what follows them. -/
def readWord? (cs : List Char) : Option (UInt64 × List Char) :=
  (readDigits (cs.takeWhile Json.isDigit)).map fun n => (.ofNat n, Json.pastDigits cs)

/-- The palette that is named at the beginning, and what follows its name. -/
def readPalette? (cs : List Char) : Option (Palette × List Char) :=
  [Palette.regular, .metaverse].findSome? fun p =>
    (cs.dropPrefix? p.name.toList).map fun r => (p, r)

/-- The path that is described at the beginning, quoted or as none, and what follows it. -/
def readPath? (cs : List Char) : Option (Option String × List Char) :=
  match behind? "Some(" unquote? cs with
  | some (path, cs) => (cs.dropPrefix? ")".toList).map fun r => (some (.ofList path), r)
  | none => (cs.dropPrefix? "None".toList).map fun r => (none, r)

/-- The settings that a text describes. -/
def ofDescription? (text : String) : Option Config := do
  let (tickMillis, cs) ← behind? "Config \x7b tick_ms: " readWord? text.toList
  let (palette, cs) ← behind? ", palette: " readPalette? cs
  let (statusFile, cs) ← behind? ", status_file: " readPath? cs
  let (statusPollSeconds, cs) ← behind? ", status_poll_secs: " readWord? cs
  let (historyLength, cs) ← behind? ", history_len: " readWord? cs
  if cs = " \x7d".toList then
    return ⟨tickMillis, palette, statusFile, statusPollSeconds, historyLength⟩
  else none

/-! ### Parts -/

variable {rest : List Char}

theorem dropPrefix?_append (label rest : List Char) :
    (label ++ rest).dropPrefix? label = some rest :=
  List.dropPrefix?_append_of_beq rest (beq_self_eq_true label)

theorem behind?_append {α : Type} (label : String) (read : List Char → Option (α × List Char))
    (rest : List Char) : behind? label read (label.toList ++ rest) = read rest := by
  rw [behind?, dropPrefix?_append, Option.bind_some]

theorem noDigit_append {label : List Char} (h : label.head?.all Json.isDigit = false)
    (rest : List Char) : Json.NoDigit (label ++ rest) := by
  cases label with
  | nil => cases h
  | cons c cs => simpa [Json.NoDigit] using h

/-- A word is read back if no digit follows it. -/
theorem readWord?_toString (n : UInt64) (h : Json.NoDigit rest) :
    readWord? ((toString n).toList ++ rest) = some (n, rest) := by
  have hword : (toString n).toList = digitsOf n.toNat := Nat.toList_repr
  have hdigits := isDigits_digitsOf n.toNat
  rw [readWord?, hword, Json.takeWhile_isDigit_digits hdigits.2 h,
    Json.pastDigits_digits hdigits.2 h, readDigits_eq hdigits, ofDigitChars_digitsOf,
    Option.map_some, UInt64.ofNat_toNat]

theorem readPalette?_name (p : Palette) (rest : List Char) :
    readPalette? (p.name.toList ++ rest) = some (p, rest) := by
  cases p <;> simp [readPalette?, Palette.name, List.dropPrefix?]

/-- A path is read back, whatever it holds. -/
theorem readPath?_describePath (path : Option String) (rest : List Char) :
    readPath? ((describePath path).toList ++ rest) = some (path, rest) := by
  cases path with
  | none => simp [readPath?, behind?, describePath, List.dropPrefix?]
  | some p =>
    have htext : (describePath (some p)).toList ++ rest =
        "Some(".toList ++ (quoted true p.toList ++ (")".toList ++ rest)) := by
      unfold describePath
      simp only [String.toList_append, String.toList_ofList, List.append_assoc]
    rw [htext, readPath?, behind?_append, unquote?_quoted]
    simp only [dropPrefix?_append, Option.map_some, String.ofList_toList]

/-! ### Descriptions -/

variable {c c' : Config}

/-- A description is made of labels and values in turns. -/
theorem toList_describe (c : Config) : c.describe.toList =
    "Config \x7b tick_ms: ".toList ++ ((toString c.tickMillis).toList ++
      (", palette: ".toList ++ (c.palette.name.toList ++
      (", status_file: ".toList ++ ((describePath c.statusFile).toList ++
      (", status_poll_secs: ".toList ++ ((toString c.statusPollSeconds).toList ++
      (", history_len: ".toList ++ ((toString c.historyLength).toList ++
      " \x7d".toList))))))))) := by
  unfold describe
  simp only [String.toList_append, List.append_assoc]

/-- **A description is read back as its settings.** -/
theorem ofDescription?_describe (c : Config) : ofDescription? c.describe = some c := by
  -- no label begins with a digit, so each word ends where the text behind it begins
  have hend : Json.NoDigit " \x7d".toList := by
    intro d hd
    obtain rfl : ' ' = d := by simpa using hd
    rfl
  rw [ofDescription?, toList_describe, behind?_append,
    readWord?_toString c.tickMillis (noDigit_append (by decide) _)]
  simp only [Option.bind_eq_bind, Option.bind_some, behind?_append, readPalette?_name,
    readPath?_describePath]
  rw [readWord?_toString c.statusPollSeconds (noDigit_append (by decide) _)]
  simp only [Option.bind_some, behind?_append]
  rw [readWord?_toString c.historyLength hend]
  simp only [Option.bind_some, if_true, Option.pure_def]

/-- A path that goes on like the description of other settings. -/
example : ofDescription? ("Config \x7b tick_ms: 1, palette: Regular, status_file: " ++
    "Some(\"\\\"), status_poll_secs: 9\"), status_poll_secs: 2, history_len: 3 \x7d") =
    some ⟨1, .regular, some "\"), status_poll_secs: 9", 2, 3⟩ := by
  decide +kernel

theorem describe_inj : c.describe = c'.describe ↔ c = c' := by
  constructor
  · intro h
    have hread := ofDescription?_describe c
    rw [h, ofDescription?_describe c'] at hread
    exact (Option.some.inj hread).symm
  · exact congrArg describe

end Config

/-! ### The beginning of a session -/

namespace LogEvent

variable {c c' : Config} {stamp : String}

theorem text_starting (c : Config) :
    (starting c).text = guarded "starting" ++ (" " ++ "config" ++ "=" ++ c.describe) := by
  unfold text message values
  simp only [List.map_cons, List.map_nil, String.join_cons, String.join_nil, String.append_empty]

/-- Two sessions begin with the same line only if they have the same settings. -/
theorem line_starting_inj :
    (starting c).line stamp = (starting c').line stamp ↔ c = c' := by
  constructor
  · intro h
    simp only [line_eq, lineText, level, text_starting, String.append_right_inj,
      String.append_left_inj] at h
    exact Config.describe_inj.1 h
  · exact fun h => h ▸ rfl

end LogEvent

namespace SessionInput

variable (s : SessionInput) {files : FileTree} {c : Config}

theorem starting_not_mem_ofLoad (r : Except LoadError Config) :
    .starting c ∉ (Config.ofLoad r).2 := by
  cases r <;> simp [Config.ofLoad]

/-- A session tells the settings that it runs with and no others. -/
theorem starting_mem_events_iff : .starting c ∈ s.events files ↔ c = (s.settings files).1 := by
  have hopening : .starting c ∈ s.opening files ↔ c = (s.settings files).1 := by
    simp [opening, settings, starting_not_mem_ofLoad]
  constructor
  · intro h
    obtain h | ⟨t, h⟩ := s.mem_events h
    · exact hopening.1 h
    · cases h
  · exact fun h => (s.opening_prefix_events files).subset (hopening.2 h)

end SessionInput

/-- **The settings in the log are the ones that the session runs with.**  The description of
settings is read back, whatever their path holds, and has no line end.  So descriptions, and the
lines that begin a session, are the same only for the same settings, and a session tells the
settings that it runs with and no others. -/
theorem description_identifies :
    (∀ c : Config, Config.ofDescription? c.describe = some c ∧ '\n' ∉ c.describe.toList) ∧
    (∀ c c' : Config, c.describe = c'.describe ↔ c = c') ∧
    (∀ (c c' : Config) (stamp : String),
      (LogEvent.starting c).line stamp = (LogEvent.starting c').line stamp ↔ c = c') ∧
    ∀ (s : SessionInput) (files : FileTree) (c : Config),
      .starting c ∈ s.events files ↔ c = (s.settings files).1 := by
  refine ⟨fun c => ⟨c.ofDescription?_describe, ?_⟩, fun c c' => Config.describe_inj,
    fun c c' stamp => LogEvent.line_starting_inj, fun s files c => s.starting_mem_events_iff⟩
  exact lineEnds_eq_zero_iff.1 c.lineEnds_describe

end ShaperDash
