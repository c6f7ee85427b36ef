/-
Log entries: what the codec and the inspector report beside their results.
-/
import NamedData.Layout

namespace NamedData

/-- How serious a log entry is. -/
inductive LogLevel where
  | warning
  | error
deriving DecidableEq, Repr

/-- The level as it stands in front of an entry. -/
def LogLevel.label : LogLevel → String
  | .warning => "WARN"
  | .error => "ERROR"

/-- A report with its level. -/
structure LogEntry where
  /-- How serious it is. -/
  level : LogLevel
  /-- What it says. -/
  message : String
deriving DecidableEq, Repr

/-- The entry as one line. -/
def LogEntry.line (e : LogEntry) : String := e.level.label ++ " " ++ e.message

/-- What encoding a layout reports: an error when the bytes cannot be read back. -/
def Layout.encodeLog (l : Layout) : List LogEntry :=
  match l.encode? with
  | .ok _ => []
  | .error e => [⟨.error, "Encoder produced malformed TLV: " ++ e.message⟩]

end NamedData
