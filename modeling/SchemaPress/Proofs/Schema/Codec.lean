import SchemaPress.Proofs.Json.ReadingPrinted
import SchemaPress.Proofs.Schema.Equality
import SchemaPress.Schema.Canonical

/-!
# The canonical form is a faithful code

A schema read from its canonical form is the normal form of the schema (`ofJson_canonical`), and
equal schemas have the same canonical form. So writing and reading lose nothing that equality sees,
and the canonical text says exactly which schemas are equal (`canonical_faithful`).

Reading and writing are compared one kind of record at a time. The readings of nodes agree with
those of written values (`agree_read`), and the tree that is printed for a part is read as the
normal form of the part (`read_toJson`).
-/

set_option autoImplicit false

namespace SchemaPress

open Document Json

/-! ## Readings of nodes and of written values -/

/-- Type tags are read alike with places and without. -/
theorem TypeTag.agree_read : Agree TypeTag.read TypeTag.read :=
  Agree.text.map TypeTag.mk

/-- So are cardinalities. -/
theorem Cardinality.agree_read : Agree Cardinality.read Cardinality.read :=
  Agree.text.map Cardinality.ofWord

/-- So are actions. -/
theorem ReferenceAction.agree_read : Agree ReferenceAction.read ReferenceAction.read :=
  Agree.text.map ReferenceAction.ofSql

/-- So are columns, field by field. -/
theorem Column.agree_read : Agree Column.read Column.read :=
  ShapesAgree.read {
    fields :=
      .cons (.of _ _ _ Agree.text) <|
      .cons (.of _ _ _ TypeTag.agree_read) <|
      .cons (.of _ _ _ Agree.flag) <|
      .cons (.of _ _ _ Agree.flag) <|
      .cons (.of _ _ _ Agree.flag) <|
      .cons (.of _ _ _ (Agree.readOptional Agree.text)) <|
      .cons (.of _ _ _ (Agree.readOptional Agree.text)) <|
      .cons (.of _ _ _ (Agree.readOptional (Agree.oneOf timestampWords))) .nil
    empty := rfl
    finish := rfl }

/-- So are indexes. -/
theorem Index.agree_read : Agree Index.read Index.read :=
  ShapesAgree.read {
    fields :=
      .cons (.of _ _ _ Agree.text) <|
      .cons (.of _ _ _ (Agree.readList Agree.text)) <|
      .cons (.of _ _ _ Agree.flag) .nil
    empty := rfl
    finish := rfl }

/-- So are tables, with their columns and indexes. -/
theorem Table.agree_read : Agree Table.read Table.read :=
  ShapesAgree.read {
    fields :=
      .cons (.of _ _ _ Agree.text) <|
      .cons (.of _ _ _ (Agree.readOptional Agree.text)) <|
      .cons (.of _ _ _ (Agree.readList Column.agree_read)) <|
      .cons (.of _ _ _ (Agree.readList Index.agree_read)) .nil
    empty := rfl
    finish := rfl }

/-- So are relationships. -/
theorem Relationship.agree_read : Agree Relationship.read Relationship.read :=
  ShapesAgree.read {
    fields :=
      .cons (.of _ _ _ Agree.text) <|
      .cons (.of _ _ _ Agree.text) <|
      .cons (.of _ _ _ Agree.text) <|
      .cons (.of _ _ _ Agree.text) <|
      .cons (.of _ _ _ Cardinality.agree_read) <|
      .cons (.of _ _ _ (Agree.readOptional ReferenceAction.agree_read)) .nil
    empty := rfl
    finish := rfl }

/-- So are schemas, with their tables and relationships. -/
theorem Schema.agree_read : Agree Schema.read Schema.read :=
  ShapesAgree.read {
    fields :=
      .cons (.of _ _ _ Agree.text) <|
      .cons (.of _ _ _ (Agree.readOptional Agree.text)) <|
      .cons (.of _ _ _ (Agree.readList Table.agree_read)) <|
      .cons (.of _ _ _ (Agree.readList Relationship.agree_read)) <|
      .cons (.of _ _ _ (Agree.readList Agree.text)) .nil
    empty := rfl
    finish := rfl }

/-- A text in which a value is laid out holds the schema that the value is read as. -/
theorem Schema.ofJson_laid {written : Written} {text : String}
    (laid : Laid written.lexemes text.toList) :
    (Schema.ofJson text).toOption = Schema.read written :=
  read_laid Schema.agree_read laid

/-! ## What is printed and read again -/

/-- The word of a role is read as that role. -/
theorem Column.lookup_timestampWords (role : TimestampRole) :
    timestampWords.lookup role.word = some role := by
  cases role <;> rfl

/-- A column is read from its own JSON. -/
theorem Column.read_toJson (column : Column) : Column.read column.toJson.written = some column := by
  obtain ⟨name, type, nullable, primaryKey, unique, default, description, role⟩ := column
  unfold read
  rw [toJson, Shape.read_written]
  simp only [List.foldlM_append, Shape.foldlM_member?]
  cases default <;> cases description <;> cases role <;>
    simp [Shape.takeNamed?, Shape.field?, shape, Field.of, TypeTag.read, Value.optional_written,
      Value.oneOf_written, lookup_timestampWords, required] <;>
    rfl

/-- So is an index. -/
theorem Index.read_toJson (index : Index) : Index.read index.toJson.written = some index := by
  have columns : readList Source.text (Value.list (index.columns.map .text)).written =
      some (index.columns.map id) := Value.list_written Value.text_written index.columns
  unfold read
  rw [toJson, Shape.read_written]
  simp [Shape.takeNamed?, Shape.field?, shape, Field.of, columns, required]
  rfl

/-- So is a table. -/
theorem Table.read_toJson (table : Table) : Table.read table.toJson.written = some table := by
  have columns : readList Column.read (Value.list (table.columns.map Column.toJson)).written =
      some (table.columns.map id) := Value.list_written Column.read_toJson table.columns
  have indexes : readList Index.read (Value.list (table.indexes.map Index.toJson)).written =
      some (table.indexes.map id) := Value.list_written Index.read_toJson table.indexes
  obtain ⟨name, description, tableColumns, tableIndexes⟩ := table
  unfold read
  rw [toJson, Shape.read_written]
  simp only [List.foldlM_append, Shape.foldlM_member?]
  cases description <;>
    simp [Shape.takeNamed?, Shape.field?, shape, Field.of, Value.optional_written, columns, indexes,
      required] <;>
    rfl

/-- A printed relationship is read as its normal form. -/
theorem Relationship.read_toJson (relationship : Relationship) :
    Relationship.read relationship.toJson.written = some relationship.normal := by
  obtain ⟨table, column, table', column', cardinality, action⟩ := relationship
  unfold read
  rw [toJson, Shape.read_written]
  simp only [List.foldlM_append, Shape.foldlM_member?]
  cases action <;>
    simp [Shape.takeNamed?, Shape.field?, shape, Field.of, Value.optional_written,
      Cardinality.read, ReferenceAction.read, required] <;>
    rfl

namespace Schema

/-- A printed schema is read as its normal form. -/
theorem read_toJson (schema : Schema) : Schema.read schema.toJson.written = some schema.normal := by
  have tables : readList Table.read (Value.list (schema.tables.map Table.toJson)).written =
      some (schema.tables.map id) := Value.list_written Table.read_toJson schema.tables
  have relationships : readList Relationship.read
      (Value.list (schema.relationships.map Relationship.toJson)).written =
      some (schema.relationships.map Relationship.normal) :=
    Value.list_written Relationship.read_toJson schema.relationships
  have suggestions : readList Source.text (Value.list (schema.suggestions.map .text)).written =
      some (schema.suggestions.map id) := Value.list_written Value.text_written schema.suggestions
  obtain ⟨name, description, schemaTables, links, texts⟩ := schema
  unfold read
  rw [toJson, Shape.read_written]
  simp only [List.foldlM_append, Shape.foldlM_member?]
  cases description <;>
    simp [Shape.takeNamed?, Shape.field?, shape, Field.of, Value.optional_written, tables,
      relationships, suggestions, required] <;>
    rfl

/-! ## The canonical form -/

/-- The schema in a printed value is the schema in the value. -/
theorem ofJson_pretty {value : Value} {schema : Schema}
    (plain : Schema.read value.written = some schema) : ofJson value.pretty = .ok schema :=
  eq_ok_of_toOption ((read_pretty agree_read value).trans plain)

/-- A schema is read from its canonical form in normal form. -/
theorem ofJson_canonical (schema : Schema) : ofJson schema.canonical = .ok schema.normal :=
  ofJson_pretty schema.read_toJson

/-- A schema and its normal form are printed alike. -/
theorem toJson_normal (schema : Schema) : schema.normal.toJson = schema.toJson := by
  have link (relationship : Relationship) :
      relationship.normal.toJson = relationship.toJson := by
    simp only [Relationship.toJson, Relationship.normal, Cardinality.word_normal, Option.map_map,
      Function.comp_def, ReferenceAction.sql_normal]
  simp only [toJson, normal, List.map_map, Function.comp_def, link]

/-- Schemas are equal exactly when their canonical forms are the same text. -/
theorem beq_iff_canonical (first second : Schema) :
    (first == second) = true ↔ first.canonical = second.canonical := by
  rw [beq_iff_normal]
  constructor
  · intro same
    rw [canonical, canonical, ← toJson_normal first, same, toJson_normal]
  · intro same
    have read := ofJson_canonical first
    rw [same, ofJson_canonical second] at read
    exact (Except.ok.inj read).symm

/-- The canonical form of every schema can be read, as an equal schema whose canonical form is the
same text, and the canonical forms of two schemas are the same text exactly when the schemas are
equal. -/
theorem canonical_faithful :
    (∀ schema : Schema, ∃ read, ofJson schema.canonical = .ok read ∧ (read == schema) = true ∧
      read.canonical = schema.canonical) ∧
    (∀ first second : Schema,
      (first == second) = true ↔ first.canonical = second.canonical) := by
  refine ⟨fun schema => ⟨schema.normal, schema.ofJson_canonical, schema.normal_beq, ?_⟩,
    beq_iff_canonical⟩
  exact (beq_iff_canonical _ _).mp schema.normal_beq

end Schema

end SchemaPress
