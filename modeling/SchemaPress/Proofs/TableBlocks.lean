import SchemaPress.Proofs.Prisma.Attributes
import SchemaPress.Proofs.Prisma.Existence
import SchemaPress.Proofs.Sql.Remarks

/-!
# Prisma and Drizzle write table by table

Below its preamble a Prisma file or a Drizzle module is made of blocks, one for each table in the
order of the schema. A block has one line for each column, then one for each index, and around the
indexes it has lines of its own that a table without indexes goes without (`BlockLayout.block`).

Blocks are joined by line feeds, so the blocks of more tables are more text behind the same text
(`tableByTable_of_text`). Nothing but the tables of a schema has a part in the blocks, and of these
not their descriptions.
-/

set_option autoImplicit false

namespace SchemaPress

/-! ## Blocks -/

/-- How a target writes a table: the line that its name opens, the lines of columns and indexes,
what ends a table without indexes, and what stands above and below indexes. -/
structure BlockLayout where
  opening : String → String
  column : Column → String
  index : Index → String
  closing : List String
  above : List String
  below : List String

namespace BlockLayout

variable (layout : BlockLayout)

/-- The lines behind the columns of a table. -/
def ending (indexes : List Index) : List String :=
  if indexes = [] then layout.closing else layout.above ++ indexes.map layout.index ++ layout.below

/-- The lines of a table, with a line that sets it apart from the next one. -/
def block (table : Table) : List String :=
  layout.opening table.name :: table.columns.map layout.column ++ layout.ending table.indexes
    ++ [""]

/-- Says that descriptions have no part in the lines of a layout. -/
def IsBare : Prop :=
  ∀ column, layout.column column.bare = layout.column column

variable {layout}

/-- Descriptions have no part in the lines of a table. -/
theorem IsBare.block (bare : layout.IsBare) (table : Table) :
    layout.block table.bare = layout.block table := by
  have columns : table.bare.columns.map layout.column = table.columns.map layout.column := by
    rw [Table.bare, List.map_map]
    apply List.map_congr_left
    intro column _
    exact bare column
  rw [BlockLayout.block, columns]
  rfl

/-- Every table has lines. -/
theorem flatMap_block_ne_nil {tables : List Table} (some : tables ≠ []) :
    tables.flatMap layout.block ≠ [] := by
  obtain ⟨table, rest, rfl⟩ := List.exists_cons_of_ne_nil some
  rw [List.flatMap_cons, block]
  exact List.cons_ne_nil _ _

/-- The layout with columns in the roles that their names give them. -/
def withTimestampsByName (layout : BlockLayout) : BlockLayout :=
  { layout with column := layout.column ∘ Column.withTimestampByName }

/-- Nor have they with the roles of names. -/
theorem IsBare.withTimestampsByName (bare : layout.IsBare) :
    layout.withTimestampsByName.IsBare := by
  intro column
  have roles : column.bare.withTimestampByName = column.withTimestampByName.bare := by
    rw [Column.withTimestampByName, Column.withTimestampByName, apply_ite Column.bare]
    rfl
  show layout.column _ = layout.column _
  rw [roles, bare]

/-- A table whose columns have taken roles is written with these roles. -/
theorem block_withTimestampsByName (table : Table) :
    layout.block table.withTimestampsByName = layout.withTimestampsByName.block table := by
  simp only [block, Table.withTimestampsByName, List.map_map]
  rfl

end BlockLayout

/-! ## Texts made of blocks -/

/-- Says that an output is made of a preamble and of one block for each table. So the output for
more tables goes on with their blocks, and outputs differ only where tables differ in more than
descriptions. -/
structure TableByTable (output : Schema → Except ExportFailure String) (preamble : List String)
    (layout : BlockLayout) : Prop where
  text : ∀ schema, output schema =
    .ok (Text.joined "\n" (preamble ++ schema.tables.flatMap layout.block))
  append : ∀ whole first second : Schema, whole.tables = first.tables ++ second.tables →
    second.tables ≠ [] →
      ∃ front body, output first = .ok front ∧
        output second = .ok (Text.joined "\n" preamble ++ "\n" ++ body) ∧
        output whole = .ok (front ++ "\n" ++ body)
  bare : ∀ schema other : Schema,
    schema.tables.map Table.bare = other.tables.map Table.bare → output schema = output other

section

variable {output : Schema → Except ExportFailure String} {preamble : List String}
  {layout : BlockLayout}

/-- An output that is made of blocks goes on with the blocks of further tables. -/
theorem tableByTable_of_text (begun : preamble ≠ []) (isBare : layout.IsBare)
    (text : ∀ schema, output schema =
      .ok (Text.joined "\n" (preamble ++ schema.tables.flatMap layout.block))) :
    TableByTable output preamble layout := by
  constructor
  case text => exact text
  case append =>
    intro whole first second tables more
    have blocks : second.tables.flatMap layout.block ≠ [] :=
      BlockLayout.flatMap_block_ne_nil more
    have started : preamble ++ first.tables.flatMap layout.block ≠ [] :=
      List.append_ne_nil_of_left_ne_nil begun _
    refine ⟨_, Text.joined "\n" (second.tables.flatMap layout.block), text first, ?_, ?_⟩
    · rw [text, Text.joined_append "\n" begun blocks]
    · rw [text, tables, List.flatMap_append, ← List.append_assoc,
        Text.joined_append "\n" started blocks]
  case bare =>
    intro schema other same
    have blocks (tables : List Table) :
        tables.flatMap layout.block = (tables.map Table.bare).flatMap layout.block := by
      rw [List.flatMap_map, funext isBare.block]
    rw [text, text, blocks, same, ← blocks]

end

/-! ## The two targets -/

namespace Prisma

/-- How a Prisma file writes a model: in a field the padded name, the type and the attributes, and
in an index its columns and its name. -/
def layout (settings : Settings) : BlockLayout where
  opening name := "model " ++ Naming.modelName name ++ " \x7b"
  column column :=
    let field := Field.ofColumn settings.prisma.provider column
    let width := settings.prisma.fieldWidth - column.name.length
    "  " ++ " ".intercalate ((column.name ++ String.ofList (List.replicate width ' '))
      :: (field.scalar.word ++ if field.optional then "?" else "")
      :: field.attributes.map Attribute.text)
  index index :=
    "  " ++ (if index.unique then "@@unique" else "@@index") ++ "(["
      ++ ", ".intercalate index.columns ++ "], map: \"" ++ index.name ++ "\")"
  closing := ["\x7d"]
  above := [""]
  below := ["\x7d"]

/-- Descriptions have no part in a model. -/
theorem isBare_layout (settings : Settings) : (layout settings).IsBare :=
  fun _ => rfl

/-- The line of a field is that of the layout. -/
theorem layout_column (settings : Settings) :
    (layout settings).column = fieldLine settings := by
  funext column
  let name := Text.padRight settings.prisma.fieldWidth column.name
  let field := Field.ofColumn settings.prisma.provider column
  have line : (layout settings).column column = "  " ++ (name ++ " " ++ field.text) := by
    rw [Field.text_eq, ← String.intercalate_cons_cons]
    rfl
  rw [line, fieldLine, String.append_assoc, String.append_assoc, String.append_assoc]

/-- The line of an index is that of the layout. -/
theorem layout_index (settings : Settings) : (layout settings).index = indexLine := by
  funext index
  rw [indexLine, Text.joined_eq_intercalate]
  rfl

/-- The lines of a model are the block of its table. -/
theorem modelOf_fieldLine (settings : Settings) (table : Table) :
    modelOf (fieldLine settings) table = (layout settings).block table := by
  unfold modelOf indexLines BlockLayout.block BlockLayout.ending
  rw [layout_column, layout_index]
  cases table.indexes with
  | nil => simp [layout]
  | cons index indexes =>
    rw [if_neg (by simp), if_neg (by simp)]
    simp only [List.append_assoc]
    rfl

end Prisma

namespace Drizzle

/-- How a Drizzle module writes a table: for a column the call of its builder with further calls
behind it, and for an index a call with its name and its columns. -/
def layout : BlockLayout where
  opening name := "export const " ++ name ++ " = pgTable(" ++ literal name ++ ", \x7b"
  column column :=
    let chain := Chain.ofColumn column
    "  " ++ column.name ++ ": " ++ "".intercalate (
      (chain.builder.word ++ "(" ++ literal column.name ++ chain.options.code ++ ")")
        :: chain.calls.map Call.code) ++ ","
  index index :=
    "  " ++ (if index.unique then "uniqueIndex" else "index") ++ "(" ++ literal index.name
      ++ ").on(" ++ ", ".intercalate (index.columns.map ("table." ++ ·)) ++ "),"
  closing := ["\x7d);"]
  above := ["\x7d, (table) => ["]
  below := ["]);"]

/-- Descriptions have no part in the table of a module. -/
theorem isBare_layout : layout.IsBare :=
  fun _ => rfl

/-- The line of a column is that of the layout. -/
theorem layout_column : layout.column = columnLine := by
  funext column
  rw [columnLine, Chain.code, Text.append_concatenated_empty]
  rfl

/-- The line of an index is that of the layout. -/
theorem layout_index : layout.index = indexLine := by
  funext index
  rw [indexLine, Text.joined_eq_intercalate]
  rfl

/-- The lines of a table in a module are its block. -/
theorem table_eq_block (table : SchemaPress.Table) : Drizzle.table table = layout.block table := by
  unfold Drizzle.table closing BlockLayout.block BlockLayout.ending
  rw [layout_column, layout_index]
  cases table.indexes with
  | nil => rfl
  | cons index indexes =>
    rw [if_neg (by simp), if_neg (by simp)]
    rfl

end Drizzle

/-! ## The outputs -/

section

variable (settings : Settings)

/-- A Prisma file whose width is not too large is made of blocks. -/
theorem prisma_tableByTable (narrow : settings.prisma.fieldWidth ≤ Naming.maxWidth) :
    TableByTable (fun schema => Target.prisma.render settings schema) (Prisma.preamble settings)
      (Prisma.layout settings) := by
  have begun : Prisma.preamble settings ≠ [] := List.cons_ne_nil _ _
  have lines (column : Column) :
      Prisma.fieldLine? settings column = some (Prisma.fieldLine settings column) := by
    rw [Prisma.fieldLine?_eq, if_pos narrow]
  apply tableByTable_of_text begun (Prisma.isBare_layout settings)
  intro schema
  rw [Target.render, Prisma.file?_eq_fileOf lines, Prisma.fileOf,
    funext (Prisma.modelOf_fieldLine settings)]

/-- A Drizzle module is made of blocks. -/
theorem drizzle_tableByTable :
    TableByTable (fun schema => Target.drizzle.render settings schema) (Drizzle.preamble settings)
      Drizzle.layout := by
  have begun : Drizzle.preamble settings ≠ [] := List.cons_ne_nil _ _
  apply tableByTable_of_text begun Drizzle.isBare_layout
  intro schema
  rw [Target.render, Drizzle.moduleText, Drizzle.lines, funext Drizzle.table_eq_block]

end

/-- An output of schemas with the roles of their columns is made of blocks with these roles. -/
theorem TableByTable.withTimestampsByName {output : Schema → Except ExportFailure String}
    {preamble : List String} {layout : BlockLayout} (begun : preamble ≠ []) (isBare : layout.IsBare)
    (byTable : TableByTable output preamble layout) :
    TableByTable (fun schema => output schema.withTimestampsByName) preamble
      layout.withTimestampsByName := by
  apply tableByTable_of_text begun isBare.withTimestampsByName
  intro schema
  rw [byTable.text, Schema.withTimestampsByName, List.flatMap_map,
    funext BlockLayout.block_withTimestampsByName]

/-- Under all settings Prisma files and Drizzle modules are made of a preamble and of one block for
each table, whether the schema is rendered as it stands or exported. The field width of a Prisma
file must not be too large. -/
theorem orm_tableByTable (settings : Settings) :
    (settings.prisma.fieldWidth ≤ 65535 →
      TableByTable (fun schema => Target.prisma.render settings schema)
        (Prisma.preamble settings) (Prisma.layout settings) ∧
      TableByTable (fun schema => (schema.exportAs settings .prisma).map Export.text)
        (Prisma.preamble settings) (Prisma.layout settings).withTimestampsByName) ∧
    TableByTable (fun schema => Target.drizzle.render settings schema)
      (Drizzle.preamble settings) Drizzle.layout ∧
    TableByTable (fun schema => (schema.exportAs settings .drizzle).map Export.text)
      (Drizzle.preamble settings) Drizzle.layout := by
  have drizzle := drizzle_tableByTable settings
  refine ⟨fun narrow => ?_, drizzle, ?_⟩
  · have prisma := prisma_tableByTable settings narrow
    have exported (schema : Schema) : (schema.exportAs settings .prisma).map Export.text =
        Target.prisma.render settings schema.withTimestampsByName :=
      schema.exportAs_text settings .prisma
    refine ⟨prisma, ?_⟩
    rw [funext exported]
    exact prisma.withTimestampsByName (List.cons_ne_nil _ _) (Prisma.isBare_layout settings)
  · have exported (schema : Schema) : (schema.exportAs settings .drizzle).map Export.text =
        Target.drizzle.render settings schema := by
      rw [schema.exportAs_text settings .drizzle]
      exact congrArg Except.ok (Drizzle.moduleText_withTimestampsByName settings schema)
    rw [funext exported]
    exact drizzle

/-- A table with an index is written behind a table without one, and what is said about them is not
written. -/
theorem orm_tableByTable_orders :
    let users : Table := { name := "users", columns := [{ name := "id", type := ⟨"UUID"⟩ }] }
    let orders : Table :=
      { name := "orders", columns := [{ name := "user_id", type := ⟨"UUID"⟩ }],
        indexes := [{ name := "by_user", columns := ["user_id"] }] }
    let shop : Schema :=
      { name := "shop", suggestions := ["none"],
        tables := [users, { orders with description := some "Goods" }] }
    let render (tables : List Table) := Target.prisma.render {} { name := "", tables }
    ({} : Settings).prisma.fieldWidth ≤ 65535 ∧
    (∃ front body, render [users] = .ok front ∧
      render [orders] = .ok (Text.joined "\n" (Prisma.preamble {}) ++ "\n" ++ body) ∧
      render [users, orders] = .ok (front ++ "\n" ++ body)) ∧
    Target.prisma.render {} shop = render [users, orders] := by
  intro users orders shop render
  have narrow : ({} : Settings).prisma.fieldWidth ≤ 65535 := by decide
  have prisma := ((orm_tableByTable {}).1 narrow).1
  exact ⟨narrow, prisma.append { name := "", tables := [users, orders] }
    { name := "", tables := [users] } { name := "", tables := [orders] } rfl
    (List.cons_ne_nil _ _), prisma.bare shop { name := "", tables := [users, orders] } rfl⟩

end SchemaPress
