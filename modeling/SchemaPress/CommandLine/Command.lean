import SchemaPress.CommandLine.Arguments

/-!
# Commands

The items in the arguments of a run are read in their order into a command with its options. An
option may not be repeated on one side of the command, writing all formats excludes the choice of
one format and of one file, and it needs a directory. A request for help or for the version ends
the reading where it stands.
-/

set_option autoImplicit false

namespace SchemaPress.CommandLine

/-- What to export, and where to. -/
structure ExportRequest where
  schema : String
  format : Option Format := none
  out : Option String := none
  all : Bool := false
  outDir : Option String := none
  deriving DecidableEq, Repr, Inhabited

/-- What a run is asked to do. -/
inductive Command where
  | exportSchema (request : ExportRequest)
  | formats
  | init
  | jsonSchema (kind : FileKind)
  deriving DecidableEq, Repr, Inhabited

/-- The file with the settings, unless another one is named. -/
def standardConfig : String := "schemacraft.json"

/-- The greatest number of times that `--verbose` is counted. -/
def greatestVerbosity : Nat := 255

/-- A command and the options of the whole program. -/
structure Invocation where
  config : String := standardConfig
  verbosity : Nat := 0
  command : Command
  deriving DecidableEq, Repr, Inhabited

/-- Why a run ends without a command. -/
inductive Stop where
  | refused (error : UsageError)
  | help (side : Side)
  | version
  deriving DecidableEq, Repr, Inhabited

/-- The options and the operand that have been read on one side. -/
structure Draft where
  config : Option String := none
  verbosity : Nat := 0
  format : Option Format := none
  out : Option String := none
  all : Bool := false
  outDir : Option String := none
  schema : Option String := none
  kind : Option FileKind := none
  deriving DecidableEq, Repr, Inhabited

/-- A path given for an option or an operand. -/
def pathGiven (what path : String) : Except Stop String :=
  if path.isEmpty then .error (.refused (.valueRefused what path)) else .ok path

/-- A word given for an option or an operand. -/
def wordGiven {α : Type} (what : String) (read : String → Option α) (word : String) :
    Except Stop α :=
  match read word with
  | some value => .ok value
  | none => .error (.refused (.valueRefused what word))

/-- What is given once at most. -/
def once {α : Type} (flag : Flag) (before : Option α) (value : Except Stop α) :
    Except Stop (Option α) :=
  match before with
  | some _ => .error (.refused (.repeated flag))
  | none => value.map some

namespace Draft

/-- Takes the value of an option. -/
def set (draft : Draft) (value : String) : Flag → Except Stop Draft
  | .config => do
    return { draft with config := ← once .config draft.config (pathGiven "--config" value) }
  | .format => do
    let format := wordGiven "--format" Format.ofChoice? value
    return { draft with format := ← once .format draft.format format }
  | .out => do return { draft with out := ← once .out draft.out (pathGiven "--out" value) }
  | .outDir => do
    return { draft with outDir := ← once .outDir draft.outDir (pathGiven "--out-dir" value) }
  | flag => .error (.refused (.valueUnneeded flag))

/-- Takes an option without a value. -/
def switch (side : Side) (draft : Draft) : Flag → Except Stop Draft
  | .verbose => .ok { draft with verbosity := min (draft.verbosity + 1) greatestVerbosity }
  | .help => .error (.help side)
  | .version => .error .version
  | .all =>
    if draft.all then .error (.refused (.repeated .all)) else .ok { draft with all := true }
  | flag => .error (.refused (.valueMissing flag))

/-- Takes an operand. -/
def takeOperand (side : Side) (draft : Draft) (text : String) : Except Stop Draft :=
  match side, draft.schema, draft.kind with
  | none, _, _ => .error (.refused (.unknownCommand text))
  | some .exportSchema, none, _ => do
    return { draft with schema := some (← pathGiven "<SCHEMA>" text) }
  | some .jsonSchema, _, none => do
    return { draft with kind := some (← wordGiven "[KIND]" FileKind.ofWord? text) }
  | _, _, _ => .error (.refused (.unknownArgument text))

/-- Takes an item. -/
def take (side : Side) (draft : Draft) : Item → Except Stop Draft
  | .switch flag => draft.switch side flag
  | .setting flag value _ => draft.set value flag
  | .operand text => draft.takeOperand side text
  | .command name _ => .error (.refused (.unknownCommand name))
  | .refused error => .error (.refused error)

/-- The request of an export. -/
def exportRequest (draft : Draft) : Except UsageError ExportRequest :=
  if draft.all && draft.format.isSome then .error (.inConflict .format .all)
  else if draft.all && draft.out.isSome then .error (.inConflict .out .all)
  else if draft.all && draft.outDir.isNone then .error (.needed "--out-dir <OUT_DIR>")
  else
    match draft.schema with
    | none => .error (.needed "<SCHEMA>")
    | some schema =>
      let { format, out, all, outDir, .. } := draft
      .ok { schema, format, out, all, outDir }

/-- The command that a finished draft stands for. -/
def command (draft : Draft) : Verb → Except UsageError Command
  | .exportSchema => draft.exportRequest.map .exportSchema
  | .formats => .ok .formats
  | .init => .ok .init
  | .jsonSchema => .ok (.jsonSchema (draft.kind.getD .model))

end Draft

/-- Reads the arguments behind the name of a command. -/
def readCommand (verb : Verb) (arguments : List String) : Except Stop (Draft × Command) := do
  let draft ← (items (some verb) arguments).foldlM (Draft.take (some verb)) {}
  return (draft, ← (draft.command verb).mapError .refused)

/-- Reads the arguments behind a request for help. -/
def readHelp : List String → Stop
  | [] | ["help"] => .help none
  | [name] =>
    match Verb.all.find? (·.name == name) with
    | some verb => .help (some verb)
    | none => .refused (.unknownCommand name)
  | _ :: name :: _ => .refused (.unknownCommand name)

/-- Reads the name of a command and the arguments behind it. -/
def readNamed (name : String) (arguments : List String) : Except Stop (Draft × Command) :=
  match Verb.all.find? (·.name == name) with
  | some verb => readCommand verb arguments
  | none => .error (readHelp arguments)

namespace Invocation

/-- The invocation made of the options on both sides of a command. -/
def ofSides (before behind : Draft) (command : Command) : Invocation where
  config := (behind.config <|> before.config).getD standardConfig
  verbosity := if behind.verbosity = 0 then before.verbosity else behind.verbosity
  command := command

/-- Reads the items up to the command, and then the command. A value that stands right before the
command in an argument of its own is looked at only when the command has been read. -/
def ofItems (before : Draft) : List Item → Except Stop Invocation
  | [] => .error (.refused (.needed "<COMMAND>"))
  | .command name arguments :: _ => do
    let (behind, command) ← readNamed name arguments
    return ofSides before behind command
  | .setting flag value false :: .command name arguments :: _ => do
    let (behind, command) ← readNamed name arguments
    return ofSides (← before.set value flag) behind command
  | item :: items => do ofItems (← before.take none item) items

def ofArguments (arguments : List String) : Except Stop Invocation :=
  ofItems {} (items none arguments)

end Invocation

end SchemaPress.CommandLine
