import SchemaPress.Export
import SchemaPress.Proofs.Prisma.Attributes
import SchemaPress.Proofs.Schema.Codec
import SchemaPress.Proofs.Text.Joining

/-!
# What the roles given by names change

Before a schema is written in any format but JSON, its columns take the roles that their names give
them. SQL and Drizzle never look at roles, so their texts stay what they were
(`Sql.script_withTimestampsByName`, `Drizzle.moduleText_withTimestampsByName`). In a Prisma file the
attribute of a role is the last of its field, so the line of a column that takes a role only grows
at its end, and no other line changes (`Prisma.fieldLine?_withTimestampByName`). JSON is written
before any role is given. `exportAs_roles` puts these together.
-/

set_option autoImplicit false

namespace SchemaPress

/-- A column keeps its name. -/
theorem Column.name_withTimestampByName (column : Column) :
    column.withTimestampByName.name = column.name := by
  unfold withTimestampByName
  split <;> rfl

/-! ## Formats that never look at roles -/

namespace Sql

/-- SQL does not write roles. -/
theorem columnDefinition_withTimestampByName (style : Style) (column : Column) :
    columnDefinition style column.withTimestampByName = columnDefinition style column := by
  unfold Column.withTimestampByName
  split <;> rfl

/-- So a table is created alike with roles and without. -/
theorem createTable_withTimestampsByName (style : Style) (table : Table) :
    createTable style table.withTimestampsByName = createTable style table := by
  have columns : table.withTimestampsByName.columns.map (columnDefinition style) =
      table.columns.map (columnDefinition style) := by
    simp only [Table.withTimestampsByName, List.map_map, Function.comp_def,
      columnDefinition_withTimestampByName]
  simp only [createTable, columns]
  rfl

/-- A script is the same before and after columns have taken the roles of their names. -/
theorem script_withTimestampsByName (style : Style) (schema : Schema) :
    script style schema.withTimestampsByName = script style schema := by
  have tables : schema.withTimestampsByName.tables.flatMap (createTable style) =
      schema.tables.flatMap (createTable style) := by
    simp only [Schema.withTimestampsByName, List.flatMap_map, createTable_withTimestampsByName]
  have indexes : (schema.withTimestampsByName.tables.flatMap fun table =>
      table.indexes.map (createIndex style table)) =
        schema.tables.flatMap fun table => table.indexes.map (createIndex style table) := by
    simp only [Schema.withTimestampsByName, List.flatMap_map]
    rfl
  unfold script lines
  rw [tables, indexes]
  rfl

end Sql

namespace Drizzle

/-- Nor does Drizzle write roles. -/
theorem columnLine_withTimestampByName (column : Column) :
    columnLine column.withTimestampByName = columnLine column := by
  unfold Column.withTimestampByName
  split <;> rfl

/-- So the lines of a table are alike with roles and without. -/
theorem table_withTimestampsByName (table : SchemaPress.Table) :
    Drizzle.table table.withTimestampsByName = Drizzle.table table := by
  have columns : table.withTimestampsByName.columns.map columnLine =
      table.columns.map columnLine := by
    simp only [Table.withTimestampsByName, List.map_map, Function.comp_def,
      columnLine_withTimestampByName]
  simp only [Drizzle.table, columns]
  rfl

/-- A module is the same before and after columns have taken the roles of their names. -/
theorem moduleText_withTimestampsByName (settings : Settings) (schema : Schema) :
    moduleText settings schema.withTimestampsByName = moduleText settings schema := by
  simp only [moduleText, lines, Schema.withTimestampsByName, List.flatMap_map,
    table_withTimestampsByName]

end Drizzle

/-! ## Prisma fields -/

namespace Prisma

/-- What a role that a column takes from its name adds to the line of the column: nothing for a
column that has a role, has no default or has another name, and nothing for a time of creation where
the database makes up the default. -/
def roleByName (provider : String) (column : Column) : String :=
  if column.timestamp = none ∧ column.default ≠ none ∧ column.default ≠ some "" then
    if column.name = "created_at" then
      if .defaultAutoincrement ∈ (Field.ofColumn provider column).attributes ∨
          .defaultUuid ∈ (Field.ofColumn provider column).attributes then ""
      else " @default(now())"
    else if column.name = "updated_at" then " @updatedAt"
    else ""
  else ""

namespace Field

/-- The text of the attribute for the role of a column. -/
def roleText (column : Column) : String :=
  Text.concatenated ((timestamp? column).toList.map fun mark => " " ++ mark.text)

/-- The attribute for a role is the last of a field. So the field of a column without a role grows
at its end when the column is given one. -/
theorem text_timestamp (provider : String) (column : Column) (role : Option TimestampRole)
    (free : column.timestamp = none) :
    (ofColumn provider { column with timestamp := role }).text =
      (ofColumn provider column).text ++ roleText { column with timestamp := role } := by
  have own : timestamp? column = none := by rw [timestamp?, free]
  have made : madeDefault? { column with timestamp := role } = madeDefault? column := rfl
  simp only [text, ofColumn, roleText, made, own, List.map_append, Text.concatenated_append,
    Option.toList_none, List.append_nil, String.append_assoc]
  rfl

/-- What is written for the time of creation. -/
theorem roleText_onCreate (provider : String) (column : Column) :
    roleText { column with timestamp := some .onCreate } =
      if .defaultAutoincrement ∈ (ofColumn provider column).attributes ∨
          .defaultUuid ∈ (ofColumn provider column).attributes then ""
      else " @default(now())" := by
  have given : timestamp? { column with timestamp := some .onCreate } =
      if (madeDefault? column).isNone then some .defaultNow else none := rfl
  have shown := madeDefault?_isSome_iff provider column
  rw [roleText, given]
  cases made : madeDefault? column with
  | none =>
    rw [made] at shown
    rw [if_neg (mt shown.mpr Bool.false_ne_true)]
    rfl
  | some mark =>
    rw [made] at shown
    rw [if_pos (shown.mp rfl)]
    rfl

/-- A field grows at its end by what its role adds, and it does not change otherwise. -/
theorem text_withTimestampByName (provider : String) (column : Column) :
    (ofColumn provider column.withTimestampByName).text =
      (ofColumn provider column).text ++ roleByName provider column := by
  have convention : (column.timestamp.isNone && column.default?.isSome) = true ↔
      column.timestamp = none ∧ column.default ≠ none ∧ column.default ≠ some "" := by
    cases column.timestamp <;> cases given : column.default <;> simp [Column.default?, given]
  unfold Column.withTimestampByName roleByName
  by_cases applies : column.timestamp = none ∧ column.default ≠ none ∧ column.default ≠ some ""
  · rw [if_pos (convention.mpr applies), if_pos applies, text_timestamp provider column _ applies.1]
    congr 1
    unfold TimestampRole.ofColumnName?
    split
    · exact roleText_onCreate provider column
    · split <;> rfl
  · rw [if_neg (mt convention.mp applies), if_neg applies, String.append_empty]

end Field

/-- Prisma writes the role that a name gives behind all else. -/
theorem fieldLine?_withTimestampByName (settings : Settings) (column : Column) :
    fieldLine? settings column.withTimestampByName =
      (fieldLine? settings column).map (· ++ roleByName settings.prisma.provider column) := by
  simp only [fieldLine?, Field.text_withTimestampByName, Column.name_withTimestampByName,
    Option.map_map, Function.comp_def, String.append_assoc]

/-- The model of a table whose columns have the given lines. -/
def modelOf (line : Column → String) (table : Table) : List String :=
  ["model " ++ Naming.modelName table.name ++ " \x7b"] ++ table.columns.map line
    ++ indexLines table.indexes ++ ["\x7d", ""]

/-- The file of tables whose columns have the given lines. -/
def fileOf (settings : Settings) (tables : List Table) (line : Column → String) : String :=
  Text.joined "\n" (preamble settings ++ tables.flatMap (modelOf line))

/-- A schema has a file as soon as every column has a line, whatever the lines are. -/
theorem file?_eq_fileOf {settings : Settings} {line : Column → String}
    (lines : ∀ column, fieldLine? settings column = some (line column)) (schema : Schema) :
    file? settings schema = some (fileOf settings schema.tables line) := by
  have fields (columns : List Column) :
      columns.mapM (fieldLine? settings) = some (columns.map line) := by
    rw [funext lines]
    exact List.mapM_pure
  have models (table : Table) : model? settings table = some (modelOf line table) := by
    rw [model?, fields]
    rfl
  have all : schema.tables.mapM (model? settings) = some (schema.tables.map (modelOf line)) := by
    rw [funext models]
    exact List.mapM_pure
  rw [file?, lines?, all]
  rfl

/-- A file of columns with roles is one whose lines are written with roles. -/
theorem fileOf_withTimestampsByName (settings : Settings) (schema : Schema)
    (line : Column → String) :
    fileOf settings schema.withTimestampsByName.tables line =
      fileOf settings schema.tables (line ∘ Column.withTimestampByName) := by
  have models (table : Table) :
      modelOf line table.withTimestampsByName =
        modelOf (line ∘ Column.withTimestampByName) table := by
    simp only [modelOf, Table.withTimestampsByName, List.map_map]
  simp only [fileOf, Schema.withTimestampsByName, List.flatMap_map, models]

/-- Once columns have taken the roles of their names, each line has grown at its end. -/
theorem file?_withTimestampsByName {settings : Settings} {line : Column → String}
    (lines : ∀ column, fieldLine? settings column = some (line column)) (schema : Schema) :
    file? settings schema.withTimestampsByName = some (fileOf settings schema.tables
      fun column => line column ++ roleByName settings.prisma.provider column) := by
  have same : line ∘ Column.withTimestampByName =
      fun column => line column ++ roleByName settings.prisma.provider column := by
    funext column
    apply Option.some.inj
    rw [Function.comp_apply, ← lines, fieldLine?_withTimestampByName, lines, Option.map_some]
  rw [file?_eq_fileOf lines, fileOf_withTimestampsByName, same]

end Prisma

/-! ## Exports -/

namespace Schema

/-- The text that is exported is what is rendered of the prepared schema. -/
theorem exportAs_text (settings : Settings) (schema : Schema) (format : Format) :
    (schema.exportAs settings format).map Export.text =
      (Target.ofFormat format).render settings (schema.prepared format) := by
  unfold exportAs
  cases (Target.ofFormat format).render settings (schema.prepared format) <;> rfl

/-- The roles that columns take from their names change a Prisma file only. The scripts and the
module are those of the schema as it stands, and the JSON text is read back with the tables as they
stand. In a Prisma file each column has the line that it has in the file of the schema as it stands,
with what its role adds at the end, and the other lines are the same. -/
theorem exportAs_roles (settings : Settings) (schema : Schema) :
    (schema.exportAs settings .postgresql).map Export.text =
      .ok (Sql.script (.ofSettings .postgres settings) schema) ∧
    (schema.exportAs settings .mysql).map Export.text =
      .ok (Sql.script (.ofSettings .mysql settings) schema) ∧
    (schema.exportAs settings .drizzle).map Export.text = .ok (Drizzle.moduleText settings schema) ∧
    (∃ read, (schema.exportAs settings .json).map Export.text = .ok schema.canonical ∧
      ofJson schema.canonical = .ok read ∧ read.tables = schema.tables) ∧
    (settings.prisma.fieldWidth ≤ Naming.maxWidth → ∃ line : Column → String,
      (∀ column, Prisma.fieldLine? settings column = some (line column)) ∧
      Target.prisma.render settings schema = .ok (Prisma.fileOf settings schema.tables line) ∧
      (schema.exportAs settings .prisma).map Export.text =
        .ok (Prisma.fileOf settings schema.tables fun column =>
          line column ++ Prisma.roleByName settings.prisma.provider column)) := by
  refine ⟨?postgres, ?mysql, ?drizzle, ⟨schema.normal, ?json, schema.ofJson_canonical, rfl⟩,
    fun narrow => ?prisma⟩
  case postgres | mysql =>
    rw [exportAs_text]
    exact congrArg Except.ok (Sql.script_withTimestampsByName _ schema)
  case drizzle =>
    rw [exportAs_text]
    exact congrArg Except.ok (Drizzle.moduleText_withTimestampsByName settings schema)
  case json =>
    rw [exportAs_text]
    rfl
  case prisma =>
    let line (column : Column) : String :=
      "  " ++ Text.padRight settings.prisma.fieldWidth column.name ++ " "
        ++ (Prisma.Field.ofColumn settings.prisma.provider column).text
    have lines (column : Column) : Prisma.fieldLine? settings column = some (line column) := by
      rw [Prisma.fieldLine?, Naming.padded?, if_pos narrow]
      rfl
    have plain : Target.prisma.render settings schema =
        .ok (Prisma.fileOf settings schema.tables line) := by
      rw [Target.render, Prisma.file?_eq_fileOf lines]
    have grown : Target.prisma.render settings schema.withTimestampsByName =
        .ok (Prisma.fileOf settings schema.tables fun column =>
          line column ++ Prisma.roleByName settings.prisma.provider column) := by
      rw [Target.render, Prisma.file?_withTimestampsByName lines]
    exact ⟨line, lines, plain, (exportAs_text settings schema .prisma).trans grown⟩

/-- A default alone gives a column its role, and only under the exact name. A time of creation is
not written beside a default that the database makes up. -/
theorem exportAs_roles_columns :
    let columns : List Column := [
      { name := "created_at", type := ⟨"TIMESTAMP"⟩, default := some "NOW()" },
      { name := "created_at", type := ⟨"serial"⟩, default := some "0" },
      { name := "updated_at", type := ⟨"UUID"⟩, primaryKey := true, default := some "0" },
      { name := "updated_at", type := ⟨"TIMESTAMP"⟩, default := some "" },
      { name := "updatedAt", type := ⟨"TIMESTAMP"⟩, default := some "NOW()" }]
    let schema : Schema := { name := "shop", tables := [{ name := "orders", columns }] }
    let settings : Settings := {}
    settings.prisma.fieldWidth ≤ Naming.maxWidth ∧
    columns.map (Prisma.roleByName settings.prisma.provider) =
      [" @default(now())", "", " @updatedAt", "", ""] ∧
    ∃ line : Column → String,
      (∀ column, Prisma.fieldLine? settings column = some (line column)) ∧
      Target.prisma.render settings schema = .ok (Prisma.fileOf settings schema.tables line) ∧
      (schema.exportAs settings .prisma).map Export.text =
        .ok (Prisma.fileOf settings schema.tables fun column =>
          line column ++ Prisma.roleByName settings.prisma.provider column) := by
  intro columns schema settings
  have narrow : settings.prisma.fieldWidth ≤ Naming.maxWidth := by decide
  have added : columns.map (Prisma.roleByName settings.prisma.provider) =
      [" @default(now())", "", " @updatedAt", "", ""] := by
    decide +kernel
  exact ⟨narrow, added, (exportAs_roles settings schema).2.2.2.2 narrow⟩

end Schema

end SchemaPress
