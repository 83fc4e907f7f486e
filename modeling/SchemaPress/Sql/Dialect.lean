import SchemaPress.Schema.TypeTag
import SchemaPress.Text.Quoted

/-!
# SQL dialects

What distinguishes the two dialects: their quotes, the types that one of them spells differently,
and the keyword that makes a column count by itself. A type that the dialect does not spell
differently is written exactly as the column has it.
-/

set_option autoImplicit false

namespace SchemaPress.Sql

/-- A dialect of SQL. -/
inductive Dialect where
  | postgres
  | mysql
  deriving DecidableEq, Repr, Inhabited

namespace Dialect

/-- The name of a dialect in the header of a script. -/
def label : Dialect → String
  | postgres => "POSTGRESQL"
  | mysql => "MYSQL"

/-- The character around a quoted identifier. -/
def quote : Dialect → Char
  | postgres => '"'
  | mysql => '\x60'

/-- The base types that a dialect spells differently; a suffix is kept behind the new spelling. -/
def respellings : Dialect → List (String × String)
  | postgres => []
  | mysql => [("SERIAL", "INT"), ("UUID", "CHAR(36)"), ("JSONB", "JSON"), ("INET", "VARCHAR(45)")]

def nativeType (dialect : Dialect) (tag : TypeTag) : String :=
  match dialect.respellings.lookup tag.base with
  | some spelling => spelling ++ tag.suffix
  | none => tag.text

/-- The keyword behind the type of a column that counts by itself, where the type does not say so.
-/
def autoIncrement? (dialect : Dialect) (tag : TypeTag) : Option String :=
  match dialect with
  | postgres => none
  | mysql => if tag.base = "SERIAL" then some "AUTO_INCREMENT" else none

/-- An identifier as a script writes it: as it is, or quoted with inner quotes written twice. -/
def identifier (dialect : Dialect) (quoted : Bool) (name : String) : String :=
  if quoted then String.ofList (Text.Doubled.encode dialect.quote name.toList) else name

end Dialect

end SchemaPress.Sql
