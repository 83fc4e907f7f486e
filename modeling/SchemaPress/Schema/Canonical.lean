import SchemaPress.Json.Printer
import SchemaPress.Json.Reading
import SchemaPress.Schema.Reading

/-!
# The canonical form of a schema

A schema is written as JSON with its fields in the order of their declaration; descriptions,
defaults, roles and actions that are absent are left out. The pretty text of it is the canonical
form.
-/

set_option autoImplicit false

namespace SchemaPress

/-- A column as JSON. -/
def Column.toJson (column : Column) : Json.Value :=
  .record <|
    [("name", .text column.name),
      ("type", .text column.type.text),
      ("nullable", .flag column.nullable),
      ("primary_key", .flag column.primaryKey),
      ("unique", .flag column.unique)]
    ++ Json.Value.member? "default" (column.default.map .text)
    ++ Json.Value.member? "description" (column.description.map .text)
    ++ Json.Value.member? "temporal" (column.timestamp.map fun role => .text role.word)

/-- An index as JSON. -/
def Index.toJson (index : Index) : Json.Value :=
  .record [
    ("name", .text index.name),
    ("columns", .list (index.columns.map .text)),
    ("unique", .flag index.unique)]

/-- A table as JSON. -/
def Table.toJson (table : Table) : Json.Value :=
  .record <|
    [("name", .text table.name)]
    ++ Json.Value.member? "description" (table.description.map .text)
    ++ [("columns", .list (table.columns.map Column.toJson)),
      ("indexes", .list (table.indexes.map Index.toJson))]

/-- A relationship as JSON. -/
def Relationship.toJson (relationship : Relationship) : Json.Value :=
  .record <|
    [("from_table", .text relationship.fromTable),
      ("from_column", .text relationship.fromColumn),
      ("to_table", .text relationship.toTable),
      ("to_column", .text relationship.toColumn),
      ("type", .text relationship.cardinality.word)]
    ++ Json.Value.member? "on_delete" (relationship.onDelete.map fun action => .text action.sql)

namespace Schema

/-- A schema as JSON. -/
def toJson (schema : Schema) : Json.Value :=
  .record <|
    [("name", .text schema.name)]
    ++ Json.Value.member? "description" (schema.description.map .text)
    ++ [("tables", .list (schema.tables.map Table.toJson)),
      ("relationships", .list (schema.relationships.map Relationship.toJson)),
      ("suggestions", .list (schema.suggestions.map .text))]

/-- The canonical form of a schema. -/
def canonical (schema : Schema) : String :=
  schema.toJson.pretty

/-- The schema that a text of JSON holds. -/
def ofJson (text : String) : Except Json.Fault Schema :=
  Json.read Schema.read text

/-- The complaint about a text that holds no schema in canonical form. -/
def notCanonical (fault : Json.Fault) : String :=
  "invalid schema json: " ++ fault.message

end Schema

end SchemaPress
