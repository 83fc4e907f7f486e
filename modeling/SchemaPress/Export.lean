import SchemaPress.Drizzle.Module
import SchemaPress.Prisma.File
import SchemaPress.Schema.Canonical
import SchemaPress.Sql.Script

/-!
# Exporting a schema

A schema is rendered in one of the formats under some settings. For every format but JSON the
columns first take the roles that their names give them. Rendering fails for no schema; only a
field width that is too large stands in the way of a Prisma file with fields.
-/

set_option autoImplicit false

namespace SchemaPress

/-- Why a schema is not exported. -/
inductive ExportFailure where
  | unsupportedFormat (name : String)
  | fieldTooWide (width : Nat)
  deriving DecidableEq, Repr, Inhabited

/-- The words for a failure. -/
def ExportFailure.message : ExportFailure → String
  | unsupportedFormat name => "unsupported export format: " ++ name
  | fieldTooWide width => "field width out of range: " ++ toString width

/-- A rendered schema and what is shown beside it. -/
structure Export where
  format : Format
  text : String
  lineCount : Nat
  label : String
  deriving DecidableEq, Repr, Inhabited

/-- What can be rendered: a format, with a dialect of its own for each kind of SQL. -/
inductive Target where
  | sql (dialect : Sql.Dialect)
  | prisma
  | drizzle
  | canonical
  deriving DecidableEq, Repr, Inhabited

namespace Target

/-- The target of a format. -/
def ofFormat : Format → Target
  | .postgresql => sql .postgres
  | .mysql => sql .mysql
  | .prisma => prisma
  | .drizzle => drizzle
  | .json => canonical

/-- A schema, as it stands, in the words of a target. -/
def render (settings : Settings) (schema : Schema) : Target → Except ExportFailure String
  | sql dialect => .ok (Sql.script (.ofSettings dialect settings) schema)
  | prisma =>
    match Prisma.file? settings schema with
    | some text => .ok text
    | none => .error (.fieldTooWide settings.prisma.fieldWidth)
  | drizzle => .ok (Drizzle.moduleText settings schema)
  | canonical => .ok schema.canonical

end Target

namespace Schema

/-- The schema as it is rendered in a format: with the roles of its columns, except in JSON. -/
def prepared (schema : Schema) (format : Format) : Schema :=
  if format = .json then schema else schema.withTimestampsByName

/-- A schema in a format, with its lines counted. -/
def exportAs (settings : Settings) (schema : Schema) (format : Format) :
    Except ExportFailure Export := do
  let text ← (Target.ofFormat format).render settings (schema.prepared format)
  return { format, text, lineCount := Text.lineCount text, label := format.label }

/-- A schema exported in the format known by a name. -/
def exportByName (settings : Settings) (schema : Schema) (name : String) :
    Except ExportFailure Export :=
  match Format.ofName? name with
  | some format => schema.exportAs settings format
  | none => .error (.unsupportedFormat name)

end Schema

end SchemaPress
