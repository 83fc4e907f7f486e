import SchemaPress.Schema.Column
import SchemaPress.Schema.Index

/-!
# Tables

A table with its columns and indexes; their order is kept in every output.
-/

set_option autoImplicit false

namespace SchemaPress

/-- A table of a schema. -/
structure Table where
  name : String
  description : Option String := none
  columns : List Column
  indexes : List Index := []
  deriving DecidableEq, Repr, Inhabited

namespace Table

/-- The first column of a name. -/
def column? (table : Table) (name : String) : Option Column :=
  table.columns.find? (·.name == name)

/-- The table with every column in the role that its name gives it. -/
def withTimestampsByName (table : Table) : Table :=
  { table with columns := table.columns.map Column.withTimestampByName }

end Table

end SchemaPress
