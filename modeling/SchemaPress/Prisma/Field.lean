import SchemaPress.Schema.Column
import SchemaPress.Settings.Basic
import SchemaPress.Text.Join

/-!
# Prisma fields

A column becomes a field: a scalar type, which may be optional, and a list of attributes. Nothing of
the column's own text gets into it, only what its type tag, its flags and its role say.
-/

set_option autoImplicit false

namespace SchemaPress.Prisma

/-- A scalar type of Prisma. -/
inductive Scalar where
  | string
  | int
  | boolean
  | dateTime
  | decimal
  | json
  deriving DecidableEq, Repr, Inhabited

namespace Scalar

/-- The name of a scalar type. -/
def word : Scalar → String
  | string => "String"
  | int => "Int"
  | boolean => "Boolean"
  | dateTime => "DateTime"
  | decimal => "Decimal"
  | json => "Json"

/-- The scalar types of the base types that have one. -/
def table : List (String × Scalar) := [
  ("UUID", string), ("SERIAL", int), ("INT", int), ("INTEGER", int), ("VARCHAR", string),
  ("TEXT", string), ("BOOLEAN", boolean), ("TIMESTAMP", dateTime), ("DATE", dateTime),
  ("DECIMAL", decimal), ("JSONB", json), ("JSON", json), ("INET", string)]

/-- The scalar type of a base type; an unknown one is a string. -/
def ofBase (base : String) : Scalar :=
  (table.lookup base).getD string

end Scalar

/-- An attribute of a field. -/
inductive Attribute where
  | id
  | defaultUuid
  | defaultAutoincrement
  | unique
  | varChar (length : Nat)
  | decimal (precision scale : Nat)
  | defaultNow
  | updatedAt
  deriving DecidableEq, Repr, Inhabited

/-- An attribute as a schema file writes it. -/
def Attribute.text : Attribute → String
  | id => "@id"
  | defaultUuid => "@default(uuid())"
  | defaultAutoincrement => "@default(autoincrement())"
  | unique => "@unique"
  | varChar length => "@db.VarChar(" ++ toString length ++ ")"
  | decimal precision scale => "@db.Decimal(" ++ toString precision ++ ", " ++ toString scale ++ ")"
  | defaultNow => "@default(now())"
  | updatedAt => "@updatedAt"

/-- The type and the attributes of a field. -/
structure Field where
  scalar : Scalar
  optional : Bool
  attributes : List Attribute
  deriving DecidableEq, Repr, Inhabited

namespace Field

/-- The providers whose databases have no native types. -/
def plainProviders : List String := ["sqlite", "mongodb"]

/-- The default that the database makes up for a column. -/
def madeDefault? (column : Column) : Option Attribute :=
  if column.type.base = "UUID" && column.primaryKey then some .defaultUuid
  else if column.type.base = "SERIAL" then some .defaultAutoincrement
  else none

/-- The attribute for the native type of a column. -/
def nativeType? (provider : String) (tag : TypeTag) : Option Attribute :=
  if plainProviders.contains provider then none
  else if tag.base = "VARCHAR" then tag.length?.map .varChar
  else if tag.base = "DECIMAL" then
    tag.precisionScale?.map fun (precision, scale) => .decimal precision scale
  else none

/-- The attribute for the role of a column; a column has one default at most. -/
def timestamp? (column : Column) : Option Attribute :=
  match column.timestamp with
  | some .onCreate => if (madeDefault? column).isNone then some .defaultNow else none
  | some .onUpdate => some .updatedAt
  | none => none

/-- The field made from a column. -/
def ofColumn (provider : String) (column : Column) : Field where
  scalar := Scalar.ofBase column.type.base
  optional := column.isOptional
  attributes :=
    (if column.primaryKey then [.id] else [])
      ++ (madeDefault? column).toList
      ++ (if column.needsUnique then [.unique] else [])
      ++ (nativeType? provider column.type).toList
      ++ (timestamp? column).toList

/-- A field as a schema file writes it behind the field's name. -/
def text (field : Field) : String :=
  field.scalar.word ++ (if field.optional then "?" else "")
    ++ Text.concatenated (field.attributes.map fun mark => " " ++ mark.text)

end Field

end SchemaPress.Prisma
