import SchemaPress.Proofs.Json.Rows
import SchemaPress.Proofs.Schema.Codec
import SchemaPress.Proofs.Schema.Parts

/-!
# The records of a schema as lists

Each kind of record can be written as the list of all its values, with null for those that are
absent (`row`). Behind the last field that it must have, a record may leave out fields at the end of
its list, and then these have their standard values: cutting the list of a record gives what the
list of another record is read as (`read_take`), and which record that is says `row_take` for each
kind. A list that is cut before its last required field is refused (`read_take_short`).

The lists and records below hold the forms of the records inside them, whatever these are, so that
the choice between a list and a record is free for each of them.
-/

set_option autoImplicit false

namespace SchemaPress

open Document Document.Shape Json

/-! ## Cutting -/

namespace Part

/-- The number of fields up to the last one that a record of a kind must have. -/
def least : Part → Nat
  | schema => 3
  | table => 3
  | column => 2
  | index => 2
  | relationship => 5

/-- The number of fields of a kind of record. -/
def width (part : Part) : Nat :=
  part.shape.fieldNames.length

/-- The standard values of the fields behind the last one that a record of a kind must have. -/
def fillers : Part → List Written
  | schema => [.list [], .list []]
  | table => [.list []]
  | column => [.flag true, .flag false, .flag false, .null, .null, .null]
  | index => [.flag false]
  | relationship => [.null]

/-- Behind the required fields each field has its filler as a standard value. -/
theorem isStandard_fillers (part : Part) :
    List.Forall₂ part.shape.IsStandard (part.shape.fieldNames.drop part.least) part.fillers := by
  have given {name : String} {value : Written} (mem : (name, value) ∈ part.standard) :
      part.shape.IsStandard name value := isStandard mem
  have absent {name : String} (mem : name ∈ part.optional) : part.shape.IsStandard name .null :=
    isStandard_null mem
  cases part with
  | schema => exact .cons (given (.head _)) (.cons (given (.tail _ (.head _))) .nil)
  | table => exact .cons (given (.head _)) .nil
  | column =>
    exact .cons (given (.head _)) <| .cons (given (.tail _ (.head _))) <|
      .cons (given (.tail _ (.tail _ (.head _)))) <| .cons (absent (by decide)) <|
      .cons (absent (by decide)) <| .cons (absent (by decide)) .nil
  | index => exact .cons (given (.head _)) .nil
  | relationship => exact .cons (absent (by decide)) .nil

/-- The required fields and those with fillers are all fields. -/
theorem least_add_length_fillers (part : Part) : part.least + part.fillers.length = part.width := by
  cases part <;> rfl

/-- The last field that a record must have is the last one before the standard values. -/
theorem exists_required {part : Part} {kept : Nat} (short : kept < part.least) :
    ∃ name ∈ part.required, name ∈ part.shape.fieldNames.drop kept := by
  have last : ∃ name ∈ part.required,
      part.shape.fieldNames.drop (part.least - 1) =
        name :: part.shape.fieldNames.drop part.least := by
    cases part <;> simp [least, required, shape, fieldNames] <;> decide
  obtain ⟨name, required, here⟩ := last
  refine ⟨name, required, ?_⟩
  have deeper : part.shape.fieldNames.drop (part.least - 1) =
      (part.shape.fieldNames.drop kept).drop (part.least - 1 - kept) := by
    rw [List.drop_drop]
    congr 1
    omega
  have mem : name ∈ (part.shape.fieldNames.drop kept).drop (part.least - 1 - kept) := by
    rw [← deeper, here]
    exact List.mem_cons_self
  exact List.mem_of_mem_drop mem

section

variable {part : Part} {row : List Written} (full : row.length = part.width)
include full

/-- The first values of a list belong to as many fields. -/
theorem length_take (kept : Nat) :
    (part.shape.fieldNames.take kept).length = (row.take kept).length := by
  rw [List.length_take, List.length_take, full, width]

/-- What is cut off behind the required fields may as well be standard. -/
theorem read_take {kept : Nat} (enough : part.least ≤ kept) :
    part.read (.list (row.take kept)) =
      part.read (.list (row.take kept ++ part.fillers.drop (kept - part.least))) := by
  have standard : List.Forall₂ part.shape.IsStandard (part.shape.fieldNames.drop kept)
      (part.fillers.drop (kept - part.least)) := by
    have dropped := List.forall₂_drop (kept - part.least) part.isStandard_fillers
    rwa [List.drop_drop, Nat.add_sub_cancel' enough] at dropped
  exact (part.lawful.read_row_append (List.take_append_drop kept _).symm (length_take full kept)
    standard).symm

/-- A list that ends before a required field is refused. -/
theorem read_take_short {kept : Nat} (short : kept < part.least) :
    part.read (.list (row.take kept)) = none := by
  obtain ⟨name, required, behind⟩ := exists_required short
  exact part.lawful.read_row_short (List.take_append_drop kept _).symm (length_take full kept)
    (isRequired required) behind

/-- A list that has a value too many is refused. -/
theorem read_overlong (surplus : Written) (more : List Written) :
    part.read (.list (row ++ surplus :: more)) = none := by
  apply read_row_long
  have names : part.shape.fieldNames.length = part.shape.fields.length := List.length_map _
  rw [List.length_append, full, width, names, List.length_cons]
  omega

end

end Part

/-! ## Values in a list -/

namespace Json

/-- A value as an item of a list, which is null if it is absent. -/
def Written.orNull (value : Option Value) : Written :=
  value.elim .null Value.written

/-- A value that may be absent is read from a null or from its word. -/
theorem optional_orNull {α β : Type} {read : Written → Option β} {word : α → String}
    {result : α → β} (reads : ∀ value, read (Value.text (word value)).written = some (result value))
    (value : Option α) :
    readOptional read (.orNull (value.map fun value => .text (word value))) =
      some (value.map result) := by
  cases value with
  | none => rfl
  | some value =>
    show readOptional read (Value.text (word value)).written = _
    rw [Value.optional_written, reads]
    rfl

/-- So is a text that may be absent. -/
theorem optional_text (text : Option String) :
    readOptional Source.text (Written.orNull (text.map .text)) = some text := by
  rw [optional_orNull Value.text_written]
  exact congrArg some Option.map_id'

/-- A list is read item by item. -/
theorem readList_list {β : Type} (read : Written → Option β) (items : List Written) :
    readList read (.list items) = items.mapM read := by
  show (items.mapM read).bind some = _
  exact Option.bind_fun_some _

end Json

/-! ## Columns -/

namespace Column

/-- All values of a column. -/
def row (column : Column) : List Written := [
  (Value.text column.name).written, (Value.text column.type.text).written,
  .flag column.nullable, .flag column.primaryKey, .flag column.unique,
  .orNull (column.default.map .text), .orNull (column.description.map .text),
  .orNull (column.timestamp.map fun role => .text role.word)]

/-- The column with its first values only. -/
def keeping (column : Column) (kept : Nat) : Column :=
  { column with
    nullable := if 2 < kept then column.nullable else true
    primaryKey := if 3 < kept then column.primaryKey else false
    unique := if 4 < kept then column.unique else false
    default := if 5 < kept then column.default else none
    description := if 6 < kept then column.description else none
    timestamp := if 7 < kept then column.timestamp else none }

/-- A column is read from the list of its values. -/
theorem read_row (column : Column) : Column.read (Written.list column.row) = some column := by
  have role : readOptional (Source.oneOf timestampWords)
      (Written.orNull (column.timestamp.map fun role => .text role.word)) =
        some column.timestamp := by
    rw [optional_orNull fun role =>
      (Value.oneOf_written _ _).trans (lookup_timestampWords role)]
    exact congrArg some Option.map_id'
  refine (Shape.read_list (le_refl 8)).trans ?_
  simp [row, shape, addItems, Field.of, TypeTag.read, optional_text, role, required]
  rfl

/-- The list of a column that ends early is that of a column with standard values. -/
theorem row_take (column : Column) {kept : Nat} (enough : Part.column.least ≤ kept) :
    column.row.take kept ++ Part.column.fillers.drop (kept - Part.column.least) =
      (column.keeping kept).row := by
  match kept, enough with
  | 2, _ | 3, _ | 4, _ | 5, _ | 6, _ | 7, _ => rfl
  | kept + 8, _ => simp [row, keeping, Part.fillers, Part.least]

end Column

/-! ## Indexes -/

namespace Index

/-- All values of an index. -/
def row (index : Index) : List Written := [
  (Value.text index.name).written, (Value.list (index.columns.map .text)).written,
  .flag index.unique]

/-- The index with its first values only. -/
def keeping (index : Index) (kept : Nat) : Index :=
  { index with unique := if 2 < kept then index.unique else false }

/-- An index is read from the list of its values. -/
theorem read_row (index : Index) : Index.read (Written.list index.row) = some index := by
  have columns : readList Source.text (Value.list (index.columns.map .text)).written =
      some (index.columns.map id) := Value.list_written Value.text_written index.columns
  refine (Shape.read_list (le_refl 3)).trans ?_
  simp [row, shape, addItems, Field.of, columns, required]
  rfl

/-- So is the list of an index. -/
theorem row_take (index : Index) {kept : Nat} (enough : Part.index.least ≤ kept) :
    index.row.take kept ++ Part.index.fillers.drop (kept - Part.index.least) =
      (index.keeping kept).row := by
  match kept, enough with
  | 2, _ => rfl
  | kept + 3, _ => simp [row, keeping, Part.fillers, Part.least]

end Index

/-! ## Tables -/

namespace Table

variable (table : Table) (columns indexes : List Written)

/-- All values of a table with forms of its columns and its indexes. -/
def row : List Written := [
  (Value.text table.name).written, .orNull (table.description.map .text), .list columns,
  .list indexes]

/-- The record of a table with forms of its columns and its indexes. -/
def record : Written :=
  .record <| spelled <|
    [("name", (Value.text table.name).written)]
    ++ (table.description.map fun text => ("description", (Value.text text).written)).toList
    ++ [("columns", .list columns), ("indexes", .list indexes)]

/-- A table is written as the record of its columns and indexes. -/
theorem written_toJson : table.toJson.written =
    table.record (table.columns.map fun column => column.toJson.written)
      (table.indexes.map fun index => index.toJson.written) := by
  cases description : table.description <;>
    simp [toJson, record, Value.written, Value.writtenMembers_eq, Value.writtenItems_eq, spelled,
      Value.member?, description, Function.comp_def]

/-- What a table is read as, given what its columns and its indexes are read as. -/
def holding (columns : Option (List Column)) (indexes : Option (List Index)) : Option Table := do
  return { table with columns := ← columns, indexes := ← indexes }

/-- A table is read from the list of its values as its columns and indexes are read. -/
theorem read_row : Table.read (Written.list (table.row columns indexes)) =
    table.holding (columns.mapM Column.read) (indexes.mapM Index.read) := by
  refine (Shape.read_list (le_refl 4)).trans ?_
  simp only [row, shape, addItems, Field.of, Value.text_written, optional_text, readList_list]
  cases columns.mapM Column.read <;> cases indexes.mapM Index.read <;> rfl

/-- A table is read from its record as its columns and indexes are read. -/
theorem read_record : Table.read (table.record columns indexes) =
    table.holding (columns.mapM Column.read) (indexes.mapM Index.read) := by
  obtain ⟨name, description, _, _⟩ := table
  unfold read record
  rw [read_spelled]
  cases description <;>
    simp [takeSpelled?, field?, shape, Field.of, Value.optional_written, readList_list] <;>
    cases columns.mapM Column.read <;> cases indexes.mapM Index.read <;> rfl

/-- The list of a table that ends early is that of a table without indexes. -/
theorem row_take {kept : Nat} (enough : Part.table.least ≤ kept) :
    (table.row columns indexes).take kept ++ Part.table.fillers.drop (kept - Part.table.least) =
      table.row columns (if 3 < kept then indexes else []) := by
  match kept, enough with
  | 3, _ => rfl
  | kept + 4, _ => simp [row, Part.fillers, Part.least]

end Table

/-! ## Relationships -/

namespace Relationship

/-- All values of a relationship. -/
def row (relationship : Relationship) : List Written := [
  (Value.text relationship.fromTable).written, (Value.text relationship.fromColumn).written,
  (Value.text relationship.toTable).written, (Value.text relationship.toColumn).written,
  (Value.text relationship.cardinality.word).written,
  .orNull (relationship.onDelete.map fun action => .text action.sql)]

/-- The relationship with its first values only. -/
def keeping (relationship : Relationship) (kept : Nat) : Relationship :=
  { relationship with onDelete := if 5 < kept then relationship.onDelete else none }

/-- A relationship is read from the list of its values, in its normal form. -/
theorem read_row (relationship : Relationship) :
    Relationship.read (Written.list relationship.row) = some relationship.normal := by
  have action (action : ReferenceAction) :
      ReferenceAction.read (Value.text action.sql).written = some action.normal := by
    simp [ReferenceAction.read, ReferenceAction.normal]
  refine (Shape.read_list (le_refl 6)).trans ?_
  simp [row, shape, addItems, Field.of, Cardinality.read, optional_orNull action, required]
  rfl

/-- The list of a relationship that ends early is that of one without an action. -/
theorem row_take (relationship : Relationship) {kept : Nat}
    (enough : Part.relationship.least ≤ kept) :
    relationship.row.take kept ++
        Part.relationship.fillers.drop (kept - Part.relationship.least) =
      (relationship.keeping kept).row := by
  match kept, enough with
  | 5, _ => rfl
  | kept + 6, _ => simp [row, keeping, Part.fillers, Part.least]

end Relationship

/-! ## Schemas -/

namespace Schema

variable (schema : Schema) (tables relationships : List Written)

/-- All values of a schema with forms of its tables and its relationships. -/
def row : List Written := [
  (Value.text schema.name).written, .orNull (schema.description.map .text), .list tables,
  .list relationships, (Value.list (schema.suggestions.map .text)).written]

/-- The record of a schema with forms of its tables and its relationships. -/
def record : Written :=
  .record <| spelled <|
    [("name", (Value.text schema.name).written)]
    ++ (schema.description.map fun text => ("description", (Value.text text).written)).toList
    ++ [("tables", .list tables), ("relationships", .list relationships),
      ("suggestions", (Value.list (schema.suggestions.map .text)).written)]

/-- A schema is written as the record of its tables and relationships. -/
theorem written_toJson : schema.toJson.written =
    schema.record (schema.tables.map fun table => table.toJson.written)
      (schema.relationships.map fun relationship => relationship.toJson.written) := by
  cases description : schema.description <;>
    simp [toJson, record, Value.written, Value.writtenMembers_eq, Value.writtenItems_eq, spelled,
      Value.member?, description, Function.comp_def]

/-- What a schema is read as, given what its tables and its relationships are read as. -/
def holding (tables : Option (List Table)) (relationships : Option (List Relationship)) :
    Option Schema := do
  return { schema with tables := ← tables, relationships := ← relationships }

/-- Suggestions are read from their list. -/
theorem read_suggestions :
    readList Source.text (Value.list (schema.suggestions.map .text)).written =
      some schema.suggestions := by
  rw [Value.list_written Value.text_written schema.suggestions]
  exact congrArg some (List.map_id _)

/-- A schema is read from the list of its values as its tables and relationships are read. -/
theorem read_row : Schema.read (Written.list (schema.row tables relationships)) =
    schema.holding (tables.mapM Table.read) (relationships.mapM Relationship.read) := by
  refine (Shape.read_list (le_refl 5)).trans ?_
  simp only [row, shape, addItems, Field.of, Value.text_written, optional_text, readList_list,
    read_suggestions]
  cases tables.mapM Table.read <;> cases relationships.mapM Relationship.read <;> rfl

/-- A schema is read from its record as its tables and relationships are read. -/
theorem read_record : Schema.read (schema.record tables relationships) =
    schema.holding (tables.mapM Table.read) (relationships.mapM Relationship.read) := by
  have suggestions := schema.read_suggestions
  obtain ⟨name, description, _, _, _⟩ := schema
  unfold read record
  rw [read_spelled]
  cases description <;>
    simp [takeSpelled?, field?, shape, Field.of, Value.optional_written, readList_list,
      suggestions] <;>
    cases tables.mapM Table.read <;> cases relationships.mapM Relationship.read <;> rfl

/-- The list of a schema that ends early lacks its suggestions or its relationships as well. -/
theorem row_take {kept : Nat} (enough : Part.schema.least ≤ kept) :
    (schema.row tables relationships).take kept ++
        Part.schema.fillers.drop (kept - Part.schema.least) =
      { schema with suggestions := if 4 < kept then schema.suggestions else [] }.row tables
        (if 3 < kept then relationships else []) := by
  match kept, enough with
  | 3, _ | 4, _ => rfl
  | kept + 5, _ => simp [row, Part.fillers, Part.least]

end Schema

end SchemaPress
