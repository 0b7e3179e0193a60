import ShaperDash.Json.Record
import ShaperDash.Json.Variant
import ShaperDash.Palette

/-!
# Settings

What the user can set in a document.  Every setting may be left out.  `Config.fault?` finds settings
that the dashboard cannot run with.
-/

namespace ShaperDash

open Json

/-- The settings of a session. -/
structure Config where
  /-- Milliseconds between two updates. -/
  tickMillis : UInt64
  /-- The palette at the start. -/
  palette : Palette
  /-- Where the shaper exports its status, if it does. -/
  statusFile : Option String
  /-- Seconds between two looks at the status. -/
  statusPollSeconds : UInt64
  /-- How many rates to keep in each direction. -/
  historyLength : UInt64
  deriving DecidableEq, Repr

/-- What can be wrong with settings. -/
inductive ConfigFault
  | zeroTick
  | zeroHistory
  deriving DecidableEq, Repr

def ConfigFault.message : ConfigFault → String
  | .zeroTick => "tick_ms must be greater than zero"
  | .zeroHistory => "history_len must be greater than zero"

/-- One of the palettes by its keyword. -/
def Palette.reader : Reader Palette :=
  .variant [(Palette.regular.keyword, .regular), (Palette.metaverse.keyword, .metaverse)]

namespace Config

/-- The settings that hold when nothing is set. -/
def default : Config := ⟨1000, .regular, none, 1, 60⟩

def record : Record Config where
  name := "Config"
  draft := .default
  fields :=
    [.of "tick_ms" false .word64 fun v c => { c with tickMillis := v },
     .of "palette" false Palette.reader fun v c => { c with palette := v },
     .of "status_file" false .optionalPath fun v c => { c with statusFile := v },
     .of "status_poll_secs" false .word64 fun v c => { c with statusPollSeconds := v },
     .of "history_len" false .count fun v c => { c with historyLength := v }]

/-- The settings that a document spells. -/
def decode (document : String) : Except DecodeError Config := record.reader.decode document

variable (c : Config)

/-- What keeps the dashboard from running with these settings, if anything does. -/
def fault? : Option ConfigFault :=
  if c.tickMillis = 0 then some .zeroTick
  else if c.historyLength = 0 then some .zeroHistory
  else none

/-- Nanoseconds between two updates. -/
def tickInterval : Nat := c.tickMillis.toNat * 1000000

/-- Nanoseconds between two looks at the status. -/
def statusInterval : Nat := c.statusPollSeconds.toNat * 1000000000

/-! ### Description -/

/-- How the log spells an optional path. -/
def describePath : Option String → String
  | none => "None"
  | some p => "Some(" ++ String.ofList (quoted true p.toList) ++ ")"

/-- How the log spells the settings. -/
def describe : String :=
  "Config \x7b tick_ms: " ++ toString c.tickMillis ++ ", palette: " ++ c.palette.name ++
    ", status_file: " ++ describePath c.statusFile ++
    ", status_poll_secs: " ++ toString c.statusPollSeconds ++
    ", history_len: " ++ toString c.historyLength ++ " \x7d"

end Config

end ShaperDash
