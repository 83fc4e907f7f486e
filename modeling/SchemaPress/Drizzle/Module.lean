import SchemaPress.Drizzle.Builder
import SchemaPress.Schema.Basic
import SchemaPress.Settings.Basic
import SchemaPress.Text.Join

/-!
# Drizzle modules

A module imports everything it may call and then exports one table for each table of the schema.
Relationships, descriptions and suggestions have no part in it.
-/

set_option autoImplicit false

namespace SchemaPress.Drizzle

/-- The functions that a module may call. -/
def imports : List String := [
  "pgTable", "uuid", "varchar", "text", "timestamp", "boolean", "integer", "decimal", "jsonb",
  "inet", "date", "index", "uniqueIndex"]

/-- The lines before the tables. -/
def preamble (settings : Settings) : List String :=
  ["// Schema generated by " ++ settings.generator, "", "import \x7b"]
    ++ imports.map (fun name => "  " ++ name ++ ",")
    ++ ["\x7d from '" ++ settings.drizzle.moduleName ++ "';", ""]

/-- The line of a column, under its own name. -/
def columnLine (column : Column) : String :=
  "  " ++ column.name ++ ": " ++ (Chain.ofColumn column).code ++ ","

/-- The function that builds an index. -/
def indexBuilder (index : Index) : String :=
  if index.unique then "uniqueIndex" else "index"

/-- The line of an index: a call with its name, and its columns as those of the table. -/
def indexLine (index : Index) : String :=
  "  " ++ indexBuilder index ++ "(" ++ literal index.name ++ ").on("
    ++ Text.joined ", " (index.columns.map ("table." ++ ·)) ++ "),"

/-- The lines behind the columns of a table: its indexes, if it has any, and its end. -/
def closing (indexes : List Index) : List String :=
  if indexes.isEmpty then ["\x7d);"]
  else ["\x7d, (table) => ["] ++ indexes.map indexLine ++ ["]);"]

/-- The lines that export a table, with a line that sets it apart from the next one. -/
def table (table : Table) : List String :=
  ["export const " ++ table.name ++ " = pgTable(" ++ literal table.name ++ ", \x7b"]
    ++ table.columns.map columnLine ++ closing table.indexes ++ [""]

/-- The lines of the module of a schema. -/
def lines (settings : Settings) (schema : Schema) : List String :=
  preamble settings ++ schema.tables.flatMap table

/-- The module of a schema. -/
def moduleText (settings : Settings) (schema : Schema) : String :=
  Text.joined "\n" (lines settings schema)

end SchemaPress.Drizzle
