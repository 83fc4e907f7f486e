import SchemaPress.Files.Basic
import SchemaPress.Log
import SchemaPress.Schema.Canonical
import SchemaPress.Schema.Yaml
import SchemaPress.Settings.Json

/-!
# Loading files

Settings and schemas are loaded from files. Settings that are not there are the standard ones, which
is logged, and so is every schema that has been loaded. The extension of a schema file says in which
notation it is written; the file is read before its extension is looked at.
-/

set_option autoImplicit false

namespace SchemaPress

/-- What went wrong, and why if there is more to say. -/
structure Failure where
  context : String
  cause : Option String := none
  deriving DecidableEq, Repr, Inhabited

/-- A failure and its cause on one line. -/
def Failure.oneLine (failure : Failure) : String :=
  match failure.cause with
  | none => failure.context
  | some cause => failure.context ++ ": " ++ cause

/-- A failure as it is reported to a user, with every line of the cause set in. -/
def Failure.report (failure : Failure) : String :=
  let lines := match failure.cause with
    | none => []
    | some cause =>
      "\n\nCaused by:" :: (Text.cutAt '\n' cause.toList).map fun line =>
        "\n    " ++ String.ofList line
  "Error: " ++ failure.context ++ Text.concatenated lines ++ "\n"

/-- A result whose error becomes the cause of a failure. -/
def explained {ε α : Type} (context : String) (message : ε → String) :
    Except ε α → Except Failure α
  | .ok value => .ok value
  | .error error => .error ⟨context, some (message error)⟩

/-- The notations of schema files. -/
inductive Notation where
  | json
  | yaml
  deriving DecidableEq, Repr, Inhabited

/-- The notation of a file with an extension. -/
def Notation.ofExtension? : String → Option Notation
  | "json" => some json
  | "yaml" | "yml" => some yaml
  | _ => none

/-- The settings in a text that comes from a path. -/
def Settings.ofFile (path text : String) : Except Failure Settings :=
  explained ("parse " ++ path) Json.Fault.message (Settings.ofJson text)

/-- The schema in a text that comes from a path. -/
def Schema.ofFile (path text : String) : Except Failure Schema :=
  match (Files.extension? path).bind Notation.ofExtension? with
  | some .json => explained ("parse JSON schema: " ++ path) Json.Fault.message (Schema.ofJson text)
  | some .yaml => explained ("parse YAML schema: " ++ path) Yaml.Fault.message (Schema.ofYaml text)
  | none =>
    let words := " (expected .json, .yaml or .yml)"
    .error { context := "unsupported schema file extension: " ++ path ++ words }

variable {m : Type → Type} [Monad m] [Files m]

/-- What has been loaded, and what is logged about that. -/
structure Loaded (α : Type) where
  value : α
  log : List LogEntry := []
  deriving Repr

/-- Loads the settings in a file, or the standard ones if there is no such file. -/
def openSettings (path : String) : m (Except Failure (Loaded Settings)) := do
  if ← Files.isThere path then
    let settings := explained ("read " ++ path) FileError.message (← Files.read path)
      >>= Settings.ofFile path
    return settings.map fun settings => { value := settings }
  else return .ok { value := {}, log := [.settingsNotFound path] }

/-- What is logged about a schema that has been loaded from a path. -/
def loadedEntry (path : String) (schema : Schema) : LogEntry :=
  .schemaLoaded path schema.tables.length schema.relationships.length

/-- Loads the schema in a file. -/
def openSchema (path : String) : m (Except Failure (Loaded Schema)) := do
  let schema := explained ("read schema file: " ++ path) FileError.message (← Files.read path)
    >>= Schema.ofFile path
  return schema.map fun schema => { value := schema, log := [loadedEntry path schema] }

/-- The settings that are loaded from a path, whatever is logged. -/
def loadSettings (path : String) : m (Except Failure Settings) := do
  return (← openSettings path).map Loaded.value

/-- The schema that is loaded from a path, whatever is logged. -/
def loadSchema (path : String) : m (Except Failure Schema) := do
  return (← openSchema path).map Loaded.value

end SchemaPress
