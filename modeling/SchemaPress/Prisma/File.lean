import SchemaPress.Naming
import SchemaPress.Prisma.Field
import SchemaPress.Schema.Basic

/-!
# Prisma schema files

A schema file opens with the generator and the data source and then holds one model for each table.
Relationships, descriptions and suggestions have no part in it. There is no file if a field would
have to be padded to a width that is too large.
-/

set_option autoImplicit false

namespace SchemaPress.Prisma

/-- The lines before the models. -/
def preamble (settings : Settings) : List String :=
  ["// Schema generated by " ++ settings.generator,
    "",
    "generator client \x7b",
    "  provider = \"prisma-client-js\"",
    "\x7d",
    "",
    "datasource db \x7b",
    "  provider = \"" ++ settings.prisma.provider ++ "\"",
    "  url      = env(\"" ++ settings.prisma.urlEnv ++ "\")",
    "\x7d",
    ""]

/-- The line of a field, provided that its name can be padded. -/
def fieldLine? (settings : Settings) (column : Column) : Option String :=
  (Naming.padded? column.name settings.prisma.fieldWidth).map fun name =>
    "  " ++ name ++ " " ++ (Field.ofColumn settings.prisma.provider column).text

/-- The line of an index: its columns, and its name in the database. -/
def indexLine (index : Index) : String :=
  "  " ++ (if index.unique then "@@unique" else "@@index") ++ "([" ++ Text.joined ", " index.columns
    ++ "], map: \"" ++ index.name ++ "\")"

/-- The lines of the indexes of a table, below a line that sets them apart. -/
def indexLines (indexes : List Index) : List String :=
  if indexes.isEmpty then [] else "" :: indexes.map indexLine

/-- The lines of the model of a table, with a line that sets it apart from the next one. -/
def model? (settings : Settings) (table : Table) : Option (List String) :=
  (table.columns.mapM (fieldLine? settings)).map fun fields =>
    ["model " ++ Naming.modelName table.name ++ " \x7b"] ++ fields ++ indexLines table.indexes
      ++ ["\x7d", ""]

/-- The lines of the file of a schema, if there is a line for each of its fields. -/
def lines? (settings : Settings) (schema : Schema) : Option (List String) :=
  (schema.tables.mapM (model? settings)).map fun models => preamble settings ++ models.flatten

/-- The file of a schema, if there is one. -/
def file? (settings : Settings) (schema : Schema) : Option String :=
  (lines? settings schema).map (Text.joined "\n")

end SchemaPress.Prisma
