import SchemaPress.Schema.TimestampRole
import SchemaPress.Schema.TypeTag

/-!
# Columns

A column has a name, a type tag and constraints. The primary key implies that a column is not null
and unique, so these two are spelt out for other columns only. A column without a role takes the one
that its name gives it by convention, provided that it has a default that is not empty.
-/

set_option autoImplicit false

namespace SchemaPress

/-- A column of a table. Its default is an expression that is written as it is. -/
structure Column where
  name : String
  type : TypeTag
  nullable : Bool := true
  primaryKey : Bool := false
  unique : Bool := false
  default : Option String := none
  description : Option String := none
  timestamp : Option TimestampRole := none
  deriving DecidableEq, Repr, Inhabited

namespace Column

/-- The column is not null, and no primary key says so. -/
def needsNotNull (column : Column) : Bool :=
  !column.nullable && !column.primaryKey

/-- The column is unique, and no primary key says so. -/
def needsUnique (column : Column) : Bool :=
  column.unique && !column.primaryKey

/-- A value may be missing; a primary key is never optional. -/
def isOptional (column : Column) : Bool :=
  column.nullable && !column.primaryKey

/-- The default, unless it is empty. -/
def default? (column : Column) : Option String :=
  column.default.filter (· ≠ "")

/-- The column with the role that its name gives it, if it has none of its own and a default. -/
def withTimestampByName (column : Column) : Column :=
  if column.timestamp.isNone && column.default?.isSome then
    { column with timestamp := TimestampRole.ofColumnName? column.name }
  else column

end Column

end SchemaPress
