import SchemaPress.Document.Shape
import SchemaPress.Schema.Basic

/-!
# Reading schemas

How a schema and its parts are read from a document of any notation. A column may be null unless it
says otherwise; flags that are not given are false; lists other than the columns and tables may be
left out; and descriptions, defaults, roles and actions may be absent.
-/

set_option autoImplicit false

namespace SchemaPress

open Document

variable {ν : Type} {m : Type → Type} [Monad m] [Source ν m]

/-- A type tag is any text. -/
def TypeTag.read (node : ν) : m TypeTag :=
  return ⟨← Source.text node⟩

/-- A cardinality is any text, and one of the known words means a known one. -/
def Cardinality.read (node : ν) : m Cardinality :=
  return .ofWord (← Source.text node)

/-- An action is any text, and one of the known words means a known one. -/
def ReferenceAction.read (node : ν) : m ReferenceAction :=
  return .ofSql (← Source.text node)

namespace Column

/-- A column of which some fields have been read. -/
structure Draft where
  name : Option String := none
  type : Option TypeTag := none
  nullable : Option Bool := none
  primaryKey : Option Bool := none
  unique : Option Bool := none
  default : Option (Option String) := none
  description : Option (Option String) := none
  timestamp : Option (Option TimestampRole) := none
  deriving DecidableEq, Repr, Inhabited

/-- The words for the roles of a column. -/
def timestampWords : List (String × TimestampRole) :=
  TimestampRole.all.map fun role => (role.word, role)

/-- The fields of a column. -/
def shape : Shape ν m Draft Column where
  title := "struct ColumnDef"
  fields := [
    .of "name" (·.name) (fun value draft => { draft with name := some value }) Source.text,
    .of "type" (·.type) (fun value draft => { draft with type := some value }) TypeTag.read,
    .of "nullable" (·.nullable) (fun value draft => { draft with nullable := some value })
      Source.flag,
    .of "primary_key" (·.primaryKey) (fun value draft => { draft with primaryKey := some value })
      Source.flag,
    .of "unique" (·.unique) (fun value draft => { draft with unique := some value }) Source.flag,
    .of "default" (·.default) (fun value draft => { draft with default := some value })
      (readOptional Source.text),
    .of "description" (·.description) (fun value draft => { draft with description := some value })
      (readOptional Source.text),
    .of "temporal" (·.timestamp) (fun value draft => { draft with timestamp := some value })
      (readOptional (Source.oneOf timestampWords))]
  empty := {}
  finish draft := do
    let name ← required "name" draft.name
    let type ← required "type" draft.type
    return {
      name, type
      nullable := draft.nullable.getD true
      primaryKey := draft.primaryKey.getD false
      unique := draft.unique.getD false
      default := draft.default.getD none
      description := draft.description.getD none
      timestamp := draft.timestamp.getD none }

/-- Reads a column. -/
def read (node : ν) : m Column :=
  shape.read node

end Column

namespace Index

/-- An index of which some fields have been read. -/
structure Draft where
  name : Option String := none
  columns : Option (List String) := none
  unique : Option Bool := none
  deriving DecidableEq, Repr, Inhabited

/-- The fields of an index. -/
def shape : Shape ν m Draft Index where
  title := "struct IndexDef"
  fields := [
    .of "name" (·.name) (fun value draft => { draft with name := some value }) Source.text,
    .of "columns" (·.columns) (fun value draft => { draft with columns := some value })
      (readList Source.text),
    .of "unique" (·.unique) (fun value draft => { draft with unique := some value }) Source.flag]
  empty := {}
  finish draft := do
    let name ← required "name" draft.name
    let columns ← required "columns" draft.columns
    return { name, columns, unique := draft.unique.getD false }

/-- Reads an index. -/
def read (node : ν) : m Index :=
  shape.read node

end Index

namespace Table

/-- A table of which some fields have been read. -/
structure Draft where
  name : Option String := none
  description : Option (Option String) := none
  columns : Option (List Column) := none
  indexes : Option (List Index) := none
  deriving DecidableEq, Repr, Inhabited

/-- The fields of a table. -/
def shape : Shape ν m Draft Table where
  title := "struct TableDef"
  fields := [
    .of "name" (·.name) (fun value draft => { draft with name := some value }) Source.text,
    .of "description" (·.description) (fun value draft => { draft with description := some value })
      (readOptional Source.text),
    .of "columns" (·.columns) (fun value draft => { draft with columns := some value })
      (readList Column.read),
    .of "indexes" (·.indexes) (fun value draft => { draft with indexes := some value })
      (readList Index.read)]
  empty := {}
  finish draft := do
    let name ← required "name" draft.name
    let columns ← required "columns" draft.columns
    return {
      name, columns
      description := draft.description.getD none
      indexes := draft.indexes.getD [] }

/-- Reads a table. -/
def read (node : ν) : m Table :=
  shape.read node

end Table

namespace Relationship

/-- A relationship of which some fields have been read. -/
structure Draft where
  fromTable : Option String := none
  fromColumn : Option String := none
  toTable : Option String := none
  toColumn : Option String := none
  cardinality : Option Cardinality := none
  onDelete : Option (Option ReferenceAction) := none
  deriving Repr, Inhabited

/-- The fields of a relationship. -/
def shape : Shape ν m Draft Relationship where
  title := "struct RelationshipDef"
  fields := [
    .of "from_table" (·.fromTable) (fun value draft => { draft with fromTable := some value })
      Source.text,
    .of "from_column" (·.fromColumn) (fun value draft => { draft with fromColumn := some value })
      Source.text,
    .of "to_table" (·.toTable) (fun value draft => { draft with toTable := some value })
      Source.text,
    .of "to_column" (·.toColumn) (fun value draft => { draft with toColumn := some value })
      Source.text,
    .of "type" (·.cardinality)
      (fun value draft => { draft with cardinality := some value }) Cardinality.read,
    .of "on_delete" (·.onDelete)
      (fun value draft => { draft with onDelete := some value })
      (readOptional ReferenceAction.read)]
  empty := {}
  finish draft := do
    let fromTable ← required "from_table" draft.fromTable
    let fromColumn ← required "from_column" draft.fromColumn
    let toTable ← required "to_table" draft.toTable
    let toColumn ← required "to_column" draft.toColumn
    let cardinality ← required "type" draft.cardinality
    return {
      fromTable, fromColumn, toTable, toColumn, cardinality
      onDelete := draft.onDelete.getD none }

/-- Reads a relationship. -/
def read (node : ν) : m Relationship :=
  shape.read node

end Relationship

namespace Schema

/-- A schema of which some fields have been read. -/
structure Draft where
  name : Option String := none
  description : Option (Option String) := none
  tables : Option (List Table) := none
  relationships : Option (List Relationship) := none
  suggestions : Option (List String) := none
  deriving Repr, Inhabited

/-- The fields of a schema. -/
def shape : Shape ν m Draft Schema where
  title := "struct Schema"
  fields := [
    .of "name" (·.name) (fun value draft => { draft with name := some value }) Source.text,
    .of "description" (·.description) (fun value draft => { draft with description := some value })
      (readOptional Source.text),
    .of "tables" (·.tables) (fun value draft => { draft with tables := some value })
      (readList Table.read),
    .of "relationships" (·.relationships)
      (fun value draft => { draft with relationships := some value })
      (readList Relationship.read),
    .of "suggestions" (·.suggestions) (fun value draft => { draft with suggestions := some value })
      (readList Source.text)]
  empty := {}
  finish draft := do
    let name ← required "name" draft.name
    let tables ← required "tables" draft.tables
    return {
      name, tables
      description := draft.description.getD none
      relationships := draft.relationships.getD []
      suggestions := draft.suggestions.getD [] }

/-- Reads a schema. -/
def read (node : ν) : m Schema :=
  shape.read node

end Schema

end SchemaPress
