import SchemaPress.CommandLine.FileKind
import SchemaPress.Format

/-!
# Arguments

The arguments of a run, first cut into items and then read as a command. An option is written with
two dashes and its name, or with one dash and its letter; letters may be run together, and the
value of an option stands behind an equals sign, right behind its letter, or in the next argument.
Behind `--` all is operand. Options of the whole program may stand before or after the command; if
they stand on both sides, the side behind the command counts.
-/

set_option autoImplicit false

namespace SchemaPress.CommandLine

/-- The options of the program and of its commands. -/
inductive Flag where
  | config
  | verbose
  | help
  | version
  | format
  | out
  | all
  | outDir
  deriving DecidableEq, Repr, Inhabited

namespace Flag

/-- The name of an option. -/
def name : Flag → String
  | config => "config"
  | verbose => "verbose"
  | help => "help"
  | version => "version"
  | format => "format"
  | out => "out"
  | all => "all"
  | outDir => "out-dir"

/-- The letter of an option. -/
def letter? : Flag → Option Char
  | verbose => some 'v'
  | help => some 'h'
  | version => some 'V'
  | format => some 'f'
  | out => some 'o'
  | _ => none

/-- Says whether an option has a value. -/
def hasValue : Flag → Bool
  | config | format | out | outDir => true
  | _ => false

end Flag

/-- The commands of the program. -/
inductive Verb where
  | exportSchema
  | formats
  | init
  | jsonSchema
  deriving DecidableEq, Repr, Inhabited

namespace Verb

/-- All commands, in the order in which they are listed. -/
def all : List Verb := [exportSchema, formats, init, jsonSchema]

/-- The name of a command. -/
def name : Verb → String
  | exportSchema => "export"
  | formats => "formats"
  | init => "init"
  | jsonSchema => "json-schema"

end Verb

/-- Where options stand: before the command, or behind it. -/
abbrev Side := Option Verb

def flags : Side → List Flag
  | none => [.config, .verbose, .help, .version]
  | some .exportSchema => [.config, .verbose, .help, .format, .out, .all, .outDir]
  | some _ => [.config, .verbose, .help]

/-- Why arguments are refused. -/
inductive UsageError where
  | unknownArgument (argument : String)
  | unknownCommand (name : String)
  | valueMissing (flag : Flag)
  | valueUnneeded (flag : Flag)
  | valueRefused (what value : String)
  | repeated (flag : Flag)
  | inConflict (one other : Flag)
  | needed (what : String)
  deriving DecidableEq, Repr, Inhabited

/-- The text of a usage error. -/
def UsageError.message : UsageError → String
  | unknownArgument argument => s!"unexpected argument '{argument}' found"
  | unknownCommand name => s!"unrecognized subcommand '{name}'"
  | valueMissing flag => s!"a value is required for '--{flag.name}' but none was supplied"
  | valueUnneeded flag => s!"a value is given for '--{flag.name}' which takes none"
  | valueRefused what value => s!"invalid value '{value}' for '{what}'"
  | repeated flag => s!"the argument '--{flag.name}' cannot be used multiple times"
  | inConflict one other => s!"the argument '--{one.name}' cannot be used with '--{other.name}'"
  | needed what => s!"the following required argument was not provided: {what}"

/-- What stands in the arguments. -/
inductive Item where
  | switch (flag : Flag)
  /-- An option with its value, which stands in the same argument or in the next one. -/
  | setting (flag : Flag) (value : String) (attached : Bool)
  | operand (text : String)
  /-- The name of a command, or of the request for help, and all arguments behind it. -/
  | command (name : String) (arguments : List String)
  | refused (error : UsageError)
  deriving DecidableEq, Repr, Inhabited

/-- What an argument says of options: complete items, perhaps followed by an option whose value
stands in the next argument. -/
structure Opening where
  items : List Item
  waiting : Option Flag := none

/-- An option by its name, with what stands behind an equals sign. -/
def ofName (side : Side) (argument : String) (name : List Char) (value : Option String) :
    Opening :=
  match (flags side).find? (·.name.toList == name) with
  | none => ⟨[.refused (.unknownArgument argument)], none⟩
  | some flag =>
    match flag.hasValue, value with
    | true, some value => ⟨[.setting flag value true], none⟩
    | true, none => ⟨[], some flag⟩
    | false, some _ => ⟨[.refused (.valueUnneeded flag)], none⟩
    | false, none => ⟨[.switch flag], none⟩

/-- Options by their letters, the last perhaps with its value. -/
def ofLetters (side : Side) (argument : String) : List Char → Opening
  | [] => ⟨[], none⟩
  | c :: cs =>
    match (flags side).find? (·.letter? == some c) with
    | none => ⟨[.refused (.unknownArgument argument)], none⟩
    | some flag =>
      if flag.hasValue then
        match cs with
        | [] => ⟨[], some flag⟩
        | '=' :: value => ⟨[.setting flag (String.ofList value) true], none⟩
        | value => ⟨[.setting flag (String.ofList value) true], none⟩
      else
        let rest := ofLetters side argument cs
        ⟨.switch flag :: rest.items, rest.waiting⟩

/-- What an argument says of options, unless it is an operand. -/
def opening? (side : Side) (argument : String) : Option Opening :=
  match argument.toList with
  | '-' :: '-' :: text =>
    let name := text.takeWhile (· ≠ '=')
    let value := match text.dropWhile (· ≠ '=') with
      | [] => none
      | _ :: value => some (String.ofList value)
    some (ofName side argument name value)
  | '-' :: c :: cs => some (ofLetters side argument (c :: cs))
  | _ => none

/-- Says whether an argument cannot be the value of the option before it. -/
def looksLikeOption (argument : String) : Bool :=
  match argument.toList with
  | '-' :: _ :: _ => true
  | _ => false

/-- Says whether an argument names a command or asks for help on one. -/
def namesCommand (side : Side) (argument : String) : Bool :=
  side.isNone && (argument == "help" || Verb.all.any (·.name == argument))

/-- The items in some arguments, up to the command or to an argument that is refused. -/
def items (side : Side) : List String → List Item
  | [] => []
  | argument :: arguments =>
    if namesCommand side argument then [.command argument arguments]
    else if argument = "--" then arguments.map .operand
    else
      match opening? side argument with
      | none => .operand argument :: items side arguments
      | some opening =>
        opening.items ++
          match opening.waiting, arguments with
          | none, arguments => items side arguments
          | some flag, [] => [.refused (.valueMissing flag)]
          | some flag, value :: arguments =>
            if looksLikeOption value then [.refused (.valueMissing flag)]
            else .setting flag value false :: items side arguments

end SchemaPress.CommandLine
