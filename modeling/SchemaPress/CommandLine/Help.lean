import SchemaPress.CommandLine.Command
import SchemaPress.Text.Join

/-!
# Help

What the program tells about itself: its version, its commands, and the arguments of each.
-/

set_option autoImplicit false

namespace SchemaPress.CommandLine

def programName : String := "schemacraft"

def versionLine : String := programName ++ " 0.1.0\n"

/-- A row of a table in a help text: what is told of, and what is told. -/
structure HelpRow where
  subject : String
  words : String

/-- A table under a heading; a table without rows is left out. -/
def helpTable (heading : String) (rows : List HelpRow) : String :=
  let width := (rows.map (·.subject.length)).foldl max 0
  if rows.isEmpty then ""
  else
    "\n" ++ heading ++ ":\n"
      ++ Text.concatenated (rows.map fun row =>
        "  " ++ Text.padRight width row.subject ++ "  " ++ row.words ++ "\n")

/-- What a command does. -/
def Verb.words : Verb → String
  | exportSchema => "Render a schema file into one or all export formats"
  | formats => "List supported export formats"
  | init => "Initialize schemacraft.json with defaults"
  | jsonSchema => "Print the JSON Schema of the schema file format"

/-- An option as it is written, and what it is for. -/
def Flag.row : Flag → HelpRow
  | config => ⟨"    --config <CONFIG>",
      "Configuration file. Defaults apply when it does not exist [default: schemacraft.json]"⟩
  | verbose => ⟨"-v, --verbose...",
      "Increase log output (-v debug, -vv trace)"⟩
  | help => ⟨"-h, --help", "Print help"⟩
  | version => ⟨"-V, --version", "Print version"⟩
  | format => ⟨"-f, --format <FORMAT>",
      "Target format; falls back to `defaultFormat` from the config [possible values: "
        ++ Text.joined ", " (Format.all.map Format.word) ++ "]"⟩
  | out => ⟨"-o, --out <OUT>", "Write the output to this file instead of stdout"⟩
  | all => ⟨"    --all", "Render every format into `--out-dir`"⟩
  | outDir => ⟨"    --out-dir <OUT_DIR>", "Directory for `--all` output"⟩

/-- The operand of a command as it is written, and what it is for. -/
def Verb.operands : Verb → List HelpRow
  | exportSchema => [⟨"<SCHEMA>", "Schema file (.json, .yaml or .yml)"⟩]
  | jsonSchema => [⟨"[KIND]", "Which file format to describe [default: model] [possible values: "
      ++ Text.joined ", " (FileKind.all.map FileKind.word) ++ "]"⟩]
  | _ => []

/-- How the arguments of a side are written. -/
def usage (side : Side) : String :=
  match side with
  | none => "Usage: " ++ programName ++ " [OPTIONS] <COMMAND>\n"
  | some verb =>
    "Usage: " ++ programName ++ " " ++ verb.name ++ " [OPTIONS]"
      ++ Text.concatenated (verb.operands.map fun row => " " ++ row.subject) ++ "\n"

def commandRows : List HelpRow :=
  Verb.all.map (fun verb => ⟨verb.name, verb.words⟩)
    ++ [⟨"help", "Print this message or the help of the given subcommand(s)"⟩]

/-- The help text of a side. -/
def helpText (side : Side) : String :=
  let options := helpTable "Options" ((flags side).map Flag.row)
  match side with
  | none =>
    "CLI command for schemacraft (export, formats, init, json-schema)\n\n" ++ usage none
      ++ helpTable "Commands" commandRows ++ options
  | some verb =>
    verb.words ++ "\n\n" ++ usage side ++ helpTable "Arguments" verb.operands ++ options

def usageText (error : UsageError) : String :=
  "error: " ++ error.message ++ "\n\n" ++ usage none ++ "\nFor more information, try '--help'.\n"

end SchemaPress.CommandLine
