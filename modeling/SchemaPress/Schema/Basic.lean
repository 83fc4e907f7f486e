import SchemaPress.Schema.Relationship
import SchemaPress.Schema.Table

/-!
# Schemas

A schema describes a whole database: its tables, the relationships between their columns, and
suggestions for whoever reads it. Equality is that of the parts, with the actions and
cardinalities of relationships compared by their spelling.
-/

set_option autoImplicit false

namespace SchemaPress

/-- A database in no dialect's terms. -/
structure Schema where
  name : String
  description : Option String := none
  tables : List Table
  relationships : List Relationship := []
  suggestions : List String := []
  deriving BEq, Repr, Inhabited

namespace Schema

/-- The first table of a name. -/
def table? (schema : Schema) (name : String) : Option Table :=
  schema.tables.find? (·.name == name)

/-- The schema with every column in the role that its name gives it. -/
def withTimestampsByName (schema : Schema) : Schema :=
  { schema with tables := schema.tables.map Table.withTimestampsByName }

end Schema

end SchemaPress
