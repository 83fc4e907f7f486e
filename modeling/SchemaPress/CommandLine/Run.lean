import SchemaPress.CommandLine.Help
import SchemaPress.Export
import SchemaPress.Loading

/-!
# Runs

What a run of the program does for its arguments: what it asks of the files, and how it comes out.
An export loads the settings and then the schema before it writes anything. All formats are
written one after another, up to the first that fails.

What a run tells and what it logs come out on the same side, one after another. The log is left out
unless the arguments ask for it.
-/

set_option autoImplicit false

namespace SchemaPress.CommandLine

/-- A piece of what a run writes to the standard error. -/
inductive Notice where
  | told (text : String)
  | logged (entry : LogEntry)
  deriving DecidableEq, Repr, Inhabited

namespace Notice

/-- The text that is told, if it is one and no entry of the log. -/
def told? : Notice → Option String
  | told text => some text
  | logged _ => none

/-- Says whether a piece is written where the log is written up to a level. -/
def isShown (most : LogLevel) : Notice → Bool
  | told _ => true
  | logged entry => entry.isShown most

end Notice

/-- How a run comes out. -/
structure Outcome where
  exit : Nat := 0
  stdout : String := ""
  notices : List Notice := []
  deriving DecidableEq, Repr, Inhabited

/-- Why a command does not do what it is asked. -/
inductive Trouble where
  | failed (failure : Failure)
  /-- The run breaks off. -/
  | broken (failure : ExportFailure)
  deriving DecidableEq, Repr, Inhabited

namespace Outcome

/-- What a run tells on the standard error, without its log. -/
def stderr (outcome : Outcome) : String :=
  Text.concatenated (outcome.notices.filterMap Notice.told?)

/-- An outcome behind some pieces that have been written before. -/
def behind (notices : List Notice) (outcome : Outcome) : Outcome :=
  { outcome with notices := notices ++ outcome.notices }

/-- An outcome whose log is written up to a level. -/
def upTo (most : LogLevel) (outcome : Outcome) : Outcome :=
  { outcome with notices := outcome.notices.filter (·.isShown most) }

/-- The outcome of a run that fails. -/
def ofFailure (failure : Failure) : Outcome where
  exit := 1
  notices := [.told failure.report]

/-- The outcome of a run that does not do what it is asked. -/
def ofTrouble : Trouble → Outcome
  | .failed failure => ofFailure failure
  | .broken failure => { exit := 101, notices := [.told (failure.message ++ "\n")] }

/-- The outcome of a run that ends without a command. -/
def ofStop : Stop → Outcome
  | .refused error => { exit := 2, notices := [.told (usageText error)] }
  | .help side => { stdout := helpText side }
  | .version => { stdout := versionLine }

end Outcome

/-- A text with a line feed at its end. -/
def withLineFeed (text : String) : String :=
  if text.endsWith "\n" then text else text ++ "\n"

/-- The schema in a format. Only a field width that is too large breaks the run off. -/
def rendered (settings : Settings) (schema : Schema) (context : String) (format : Format) :
    Except Trouble Export :=
  match schema.exportAs settings format with
  | .ok result => .ok result
  | .error failure@(.fieldTooWide _) => .error (.broken failure)
  | .error failure => .error (.failed ⟨context, some failure.message⟩)

/-- What is told about a file that has been written. -/
def exportedLine (path : String) (result : Export) : String :=
  s!"Exported: {path} ({result.label}, {result.lineCount} lines)\n"

/-- What is logged about a schema that has been rendered. -/
def renderedNotice (schema : Schema) (result : Export) : Notice :=
  .logged (.schemaRendered result.format schema.tables.length schema.relationships.length
    result.lineCount)

/-- What is logged and told about a file that has been written. -/
def exportedNotices (path : String) (result : Export) : List Notice :=
  [.logged (.exportWritten path result.format), .told (exportedLine path result)]

/-- The name of the file for a format in a directory of all formats. -/
def fileName : Format → String
  | .mysql => "schema.mysql." ++ Format.mysql.extension
  | format => "schema." ++ format.extension

/-- The line about a format in the list of all formats. -/
def formatLine (format : Format) : String :=
  "  " ++ Text.padRight 10 format.word ++ " " ++ Text.padRight 16 format.label ++ " ."
    ++ format.extension ++ (if format = .standard then " (default)" else "") ++ "\n"

/-- The list of all formats. -/
def formatList : String :=
  "Export formats:\n" ++ Text.concatenated (Format.all.map formatLine)

variable {m : Type → Type} [Monad m] [Files m]

/-- Makes the directories around a file and writes it: what is logged and told about that. -/
def writeExport (path : String) (result : Export) : m (Except Failure (List Notice)) := do
  let around := (Files.parent? path).getD ""
  match ← Files.makeDirectories around with
  | .error error => return .error ⟨"create parent dir " ++ around, some error.message⟩
  | .ok () =>
    match ← Files.write path result.text with
    | .error error => return .error ⟨"write " ++ path, some error.message⟩
    | .ok () => return .ok (exportedNotices path result)

/-- Writes a schema in some formats into a directory, up to the first format that fails. -/
def writeEach (settings : Settings) (schema : Schema) (directory : String) :
    List Format → m Outcome
  | [] => return {}
  | format :: formats => do
    match rendered settings schema ("export as " ++ format.word) format with
    | .error trouble => return .ofTrouble trouble
    | .ok result =>
      match ← writeExport (Files.inside directory (fileName format)) result with
      | .error failure => return (Outcome.ofFailure failure).behind [renderedNotice schema result]
      | .ok notices =>
        let rest ← writeEach settings schema directory formats
        return rest.behind (renderedNotice schema result :: notices)

/-- Writes a schema in all formats into a directory. -/
def writeAll (settings : Settings) (schema : Schema) (directory : String) : m Outcome := do
  match ← Files.makeDirectories directory with
  | .error error => return .ofFailure ⟨"create output dir " ++ directory, some error.message⟩
  | .ok () => writeEach settings schema directory Format.all

/-- Writes a schema in one format to a file or to the standard output. -/
def writeOne (settings : Settings) (schema : Schema) (request : ExportRequest) : m Outcome := do
  let format := request.format.getD settings.defaultFormat
  match rendered settings schema ("export " ++ request.schema ++ " as " ++ format.word) format with
  | .error trouble => return .ofTrouble trouble
  | .ok result =>
    match request.out with
    | none =>
      return { stdout := withLineFeed result.text, notices := [renderedNotice schema result] }
    | some path =>
      match ← writeExport path result with
      | .error failure => return (Outcome.ofFailure failure).behind [renderedNotice schema result]
      | .ok notices => return { notices := renderedNotice schema result :: notices }

/-- Writes a schema as requested. -/
def writeRequested (settings : Settings) (schema : Schema) (request : ExportRequest) : m Outcome :=
  if request.all then
    match request.outDir with
    | none => return .ofFailure ⟨"--all requires --out-dir", none⟩
    | some directory => writeAll settings schema directory
  else writeOne settings schema request

/-- Exports a schema under some settings as requested. -/
def exportUnder (settings : Settings) (request : ExportRequest) : m Outcome := do
  match ← openSchema request.schema with
  | .error failure => return .ofFailure failure
  | .ok schema =>
    let outcome ← writeRequested settings schema.value request
    return outcome.behind (schema.log.map .logged)

/-- Exports a schema as requested. -/
def runExport (config : String) (request : ExportRequest) : m Outcome := do
  match ← openSettings config with
  | .error failure => return .ofFailure failure
  | .ok settings =>
    let outcome ← exportUnder settings.value request
    return outcome.behind (settings.log.map .logged)

/-- Writes the standard settings to a file that is not there yet. -/
def runInit (config : String) : m Outcome := do
  if ← Files.isThere config then return .ofFailure ⟨config ++ " already exists", none⟩
  else
    match ← Files.write config ({} : Settings).toJson.pretty with
    | .error error => return .ofFailure ⟨"write " ++ config, some error.message⟩
    | .ok () => return { stdout := "Created " ++ config ++ "\n" }

/-- Runs a command. -/
def runCommand (config : String) : Command → m Outcome
  | .exportSchema request => runExport config request
  | .formats => return { stdout := formatList }
  | .init => runInit config
  | .jsonSchema kind => return { stdout := kind.description.pretty ++ "\n" }

/-- Runs the program on some arguments. -/
def run (arguments : List String) : m Outcome :=
  match Invocation.ofArguments arguments with
  | .error stop => return .ofStop stop
  | .ok invocation => do
    let outcome ← runCommand invocation.config invocation.command
    return outcome.upTo (.ofVerbosity invocation.verbosity)

end SchemaPress.CommandLine
