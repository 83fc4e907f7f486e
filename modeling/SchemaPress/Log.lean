import SchemaPress.Format
import SchemaPress.Text.Join

/-!
# The log

What a run notes beside what it tells its user: how grave an entry is, what happened, and what it
happened to. How much of it is written depends on how often the user asks for more. The time of day,
which stands in front of an entry where it is written, is not part of it.
-/

set_option autoImplicit false

namespace SchemaPress

/-- How grave an entry of the log is. -/
inductive LogLevel where
  | warn
  | info
  | debug
  | trace
  deriving DecidableEq, Repr, Inhabited

namespace LogLevel

/-- The name of a level, as wide as the longest one. -/
def word : LogLevel → String
  | warn => " WARN"
  | info => " INFO"
  | debug => "DEBUG"
  | trace => "TRACE"

/-- How far into details a level goes. -/
def detail : LogLevel → Nat
  | warn => 0
  | info => 1
  | debug => 2
  | trace => 3

/-- The level up to which entries are written if the user asks for more so many times. -/
def ofVerbosity : Nat → LogLevel
  | 0 => warn
  | 1 => debug
  | _ => trace

end LogLevel

/-- An entry of the log. -/
inductive LogEntry where
  | settingsNotFound (path : String)
  | schemaLoaded (path : String) (tables relationships : Nat)
  | schemaRendered (format : Format) (tables relationships lines : Nat)
  | exportWritten (path : String) (format : Format)
  deriving DecidableEq, Repr, Inhabited

namespace LogEntry

/-- The level of an entry. -/
def level : LogEntry → LogLevel
  | settingsNotFound .. | schemaLoaded .. | schemaRendered .. => .debug
  | exportWritten .. => .info

/-- What has happened. -/
def message : LogEntry → String
  | settingsNotFound .. => "config file not found, using defaults"
  | schemaLoaded .. => "loaded schema"
  | schemaRendered .. => "rendered schema export"
  | exportWritten .. => "wrote export"

/-- What it has happened to, by names. -/
def fields : LogEntry → List (String × String)
  | settingsNotFound path => [("path", path)]
  | schemaLoaded path tables relationships =>
    [("path", path), ("tables", toString tables), ("relationships", toString relationships)]
  | schemaRendered format tables relationships lines =>
    [("format", format.word), ("tables", toString tables),
      ("relationships", toString relationships), ("lines", toString lines)]
  | exportWritten path format => [("path", path), ("format", format.word)]

/-- An entry as it is written behind the time. -/
def text (entry : LogEntry) : String :=
  entry.level.word ++ " " ++ entry.message
    ++ Text.concatenated (entry.fields.map fun (name, value) => " " ++ name ++ "=" ++ value)

/-- Says whether an entry is written where entries are written up to a level. -/
def isShown (most : LogLevel) (entry : LogEntry) : Bool :=
  entry.level.detail ≤ most.detail

/-- All entries are written as soon as the user asks for more once, and none before. -/
theorem isShown_ofVerbosity (verbosity : Nat) (entry : LogEntry) :
    entry.isShown (.ofVerbosity verbosity) = true ↔ verbosity ≠ 0 := by
  rcases verbosity with _ | _ | verbosity <;> cases entry <;>
    simp [isShown, level, LogLevel.ofVerbosity, LogLevel.detail]

end LogEntry

end SchemaPress
