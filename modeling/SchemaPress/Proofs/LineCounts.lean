import SchemaPress.Proofs.ExportTotality
import SchemaPress.Proofs.Json.PrettyLines
import SchemaPress.Proofs.Text.Doubled
import SchemaPress.Proofs.Text.Escaped

/-!
# How many lines an export has

The number that is shown beside an export counts the lines of its text. It follows from the shape of
the schema: each column, index and relationship has its lines, and each heading stands only where
there is something below it. A string that is written as it is may hold line feeds, and then there
are as many lines more. `exportAs_lineCount` says so for every format; in JSON no string is written
as it is.

The strings that a target writes are listed with the definitions (`Sql.strings`, `Prisma.strings`,
`Drizzle.strings`), each of them as often as it is written. The lines of a target are counted entry
by entry, with one lemma for each kind of entry.
-/

set_option autoImplicit false

namespace SchemaPress

open Text

/-- Some lines below a heading, or nothing where there are no lines. -/
def headed (n : Nat) : Nat :=
  if n = 0 then 0 else 1 + n

/-- Words without a line feed bring none. -/
theorem feeds_words {words : String} (plain : words.toList.contains '\n' = false) :
    feeds words = 0 := by
  rw [feeds_eq_zero_iff]
  simpa using plain

/-! ## SQL scripts -/

namespace Sql

/-- The strings that are written for a column. -/
def columnStrings (dialect : Dialect) (column : Column) : List String :=
  [column.name, dialect.nativeType column.type] ++ column.default?.toList

/-- The strings that are written for a table. -/
def tableStrings (dialect : Dialect) (table : Table) : List String :=
  table.description.toList ++ [table.name] ++ table.columns.flatMap (columnStrings dialect)

/-- The strings that are written for a relationship. The name of its constraint repeats two. -/
def keyStrings (relationship : Relationship) : List String :=
  [relationship.fromTable, relationship.fromTable, relationship.fromColumn, relationship.fromColumn,
    relationship.toTable, relationship.toColumn, relationship.onDeleteOrCascade.sql]

/-- The strings that are written for an index of a table. -/
def indexStrings (table : Table) (index : Index) : List String :=
  [index.name, table.name] ++ index.columns

/-- The strings of a schema and of the settings that are written into a script. -/
def strings (style : Style) (schema : Schema) : List String :=
  [schema.name, style.generator] ++ schema.tables.flatMap (tableStrings style.dialect)
    ++ schema.relationships.flatMap keyStrings
    ++ schema.tables.flatMap fun table => table.indexes.flatMap (indexStrings table)

/-- The number of lines of the statement that creates a table. A table without columns still has a
line for them. -/
def tableTotal (table : Table) : Nat :=
  3 + max 1 table.columns.length + if table.description.any (· ≠ "") then 1 else 0

/-- The number of lines of a script, without those that are written into it. -/
def lineTotal (schema : Schema) : Nat :=
  4 + (schema.tables.map tableTotal).sum + headed (6 * schema.relationships.length)
    + headed (schema.tables.map (·.indexes.length)).sum

/-- Quotes put no line feed into a name. -/
theorem feeds_identifier (style : Style) (name : String) :
    feeds (style.identifier name) = feeds name := by
  have other : '\n' ≠ style.dialect.quote := by cases style.dialect <;> decide
  unfold Style.identifier Dialect.identifier
  split
  · simp [feeds, Doubled.encode, Doubled.count_body other, List.count_cons_of_ne other.symm]
  · rfl

/-- The strings in the words of a modifier. -/
def Modifier.strings : Modifier → List String
  | autoIncrement keyword => [keyword]
  | default expression => [expression]
  | _ => []

/-- A modifier has the line feeds of what is written into it. -/
theorem feeds_modifier (modifier : Modifier) :
    feeds (" " ++ modifier.words) = feedsOf modifier.strings := by
  cases modifier <;>
    simp only [Modifier.words, Modifier.strings, feeds_append, feedsOf_cons, feedsOf_nil] <;>
    simp (disch := decide) only [feeds_words, Nat.zero_add, Nat.add_zero]

/-- The keyword of a column that counts by itself has no line feed. -/
theorem feedsOf_autoIncrement? (dialect : Dialect) (tag : TypeTag) :
    feedsOf (dialect.autoIncrement? tag).toList = 0 := by
  cases dialect with
  | postgres => rfl
  | mysql =>
    have keyword : Dialect.mysql.autoIncrement? tag =
        if tag.base = "SERIAL" then some "AUTO_INCREMENT" else none := rfl
    rw [keyword]
    split_ifs
    · rfl
    · rfl

/-- Of the modifiers of a column only its default holds a string of the schema. -/
theorem feeds_modifiers (dialect : Dialect) (column : Column) :
    feedsOf ((modifiers dialect column).map fun modifier => " " ++ modifier.words) =
      feedsOf column.default?.toList := by
  have flag (present : Bool) (modifier : Modifier) (fixed : modifier.strings = []) :
      (if present then [modifier] else []).flatMap Modifier.strings = [] := by
    cases present
    · rfl
    · simp [fixed]
  have counts (keyword : Option String) :
      (keyword.toList.map Modifier.autoIncrement).flatMap Modifier.strings = keyword.toList := by
    cases keyword <;> rfl
  have default (expression : Option String) :
      (expression.toList.map Modifier.default).flatMap Modifier.strings = expression.toList := by
    cases expression <;> rfl
  rw [feedsOf_map, funext feeds_modifier, ← feedsOf_flatMap]
  simp only [modifiers, List.flatMap_append, feedsOf_append, counts, default,
    flag _ .primaryKey rfl, flag _ .notNull rfl, flag _ .unique rfl, feedsOf_nil,
    feedsOf_autoIncrement?]
  omega

/-- The definition of a column has the line feeds of what is written into it. -/
theorem feeds_columnDefinition (style : Style) (column : Column) :
    feeds (columnDefinition style column) = feedsOf (columnStrings style.dialect column) := by
  simp only [columnDefinition, columnStrings, feeds_append, feeds_identifier, feeds_concatenated,
    feeds_modifiers, feedsOf_append, feedsOf_cons, feedsOf_nil]
  simp (disch := decide) only [feeds_words]
  omega

/-- A header is four lines. -/
theorem counted_header (style : Style) (schema : Schema) :
    Counted (header style schema) 4 [schema.name, style.generator] := by
  have title : feeds (if schema.name = "" then untitled else schema.name) = feeds schema.name := by
    split
    case isTrue unnamed =>
      rw [unnamed]
      rfl
    case isFalse => rfl
  have label : feeds style.dialect.label = 0 := by cases style.dialect <;> rfl
  apply counted_of_length rfl
  simp only [header, feedsOf_cons, feedsOf_nil, feeds_append, title, label]
  simp (disch := decide) only [feeds_words]
  omega

/-- The columns of a table are one entry, with a line for each column. -/
theorem counted_columns (style : Style) (columns : List Column) :
    Counted [joined ",\n" (columns.map (columnDefinition style))] (max 1 columns.length)
      (columns.flatMap (columnStrings style.dialect)) := by
  have each := counted_map (feeds_columnDefinition style) columns
  -- No columns are joined to the empty text, and that is a line as well.
  cases columns with
  | nil => rfl
  | cons column columns =>
    have some : (column :: columns).map (columnDefinition style) ≠ [] := List.cons_ne_nil _ _
    have atLeast : max 1 (column :: columns).length = (column :: columns).length := by simp
    rw [Counted, List.map_singleton, List.sum_singleton, lineCount_joined rfl some, atLeast]
    exact each

/-- A description is a line, unless it is empty. -/
theorem counted_description (description : Option String) :
    Counted ((description.filter (· ≠ "")).toList.map ("-- " ++ ·))
      (if description.any (· ≠ "") then 1 else 0) description.toList := by
  cases description with
  | none => rfl
  | some description =>
    by_cases empty : description = ""
    · subst empty
      rfl
    · have remark : ((some description).filter (· ≠ "")).toList.map ("-- " ++ ·) =
          ["-- " ++ description] := by simp [empty]
      have one : (if (some description).any (· ≠ "") then 1 else 0) = 1 := by simp [empty]
      rw [remark, one]
      apply counted_of_length rfl
      simp only [Option.toList_some, feedsOf_cons, feedsOf_nil, feeds_append]
      simp (disch := decide) only [feeds_words]
      omega

/-- The lines that create a table. -/
theorem counted_createTable (style : Style) (table : Table) :
    Counted (createTable style table) (tableTotal table) (tableStrings style.dialect table) := by
  have opening :
      Counted ["CREATE TABLE " ++ style.identifier table.name ++ " ("] 1 [table.name] := by
    apply counted_of_length rfl
    simp only [feedsOf_cons, feedsOf_nil, feeds_append, feeds_identifier]
    simp (disch := decide) only [feeds_words]
    omega
  have closing : Counted [");", ""] 2 [] := rfl
  have counted := (counted_description table.description).append
    (opening.append ((counted_columns style table.columns).append closing))
  unfold Counted at *
  rw [createTable, tableTotal, tableStrings]
  simp only [List.cons_append, List.nil_append, List.append_nil, List.append_assoc] at counted ⊢
  omega

/-- A foreign key is six lines. -/
theorem counted_addForeignKey (style : Style) (relationship : Relationship) :
    Counted (addForeignKey style relationship) 6 (keyStrings relationship) := by
  apply counted_of_length rfl
  simp only [addForeignKey, keyStrings, Naming.foreignKeyName, feedsOf_cons, feedsOf_nil,
    feeds_append, feeds_identifier]
  simp (disch := decide) only [feeds_words]
  omega

/-- An index has the line feeds of what is written into it. -/
theorem feeds_createIndex (style : Style) (table : Table) (index : Index) :
    feeds (createIndex style table index) = feedsOf (indexStrings table index) := by
  have unique : feeds (if index.unique then "UNIQUE " else "") = 0 := by cases index.unique <;> rfl
  have columns : feedsOf (index.columns.map style.identifier) = feedsOf index.columns := by
    rw [feedsOf_map, funext (feeds_identifier style)]
    rfl
  have separator : feeds ", " = 0 := rfl
  unfold createIndex
  simp only [indexStrings, feedsOf_append, feedsOf_cons, feedsOf_nil, feeds_append,
    feeds_identifier, unique, feeds_joined separator, columns]
  simp (disch := decide) only [feeds_words]
  omega

/-- A heading is a line more, if there is anything below it. -/
theorem counted_underHeading {heading : String} {lines texts : List String} {n : Nat}
    (plain : feeds heading = 0) (length : lines.length = n) (counted : Counted lines n texts) :
    Counted (underHeading heading lines) (headed n) texts := by
  cases lines with
  | nil =>
    subst length
    exact counted
  | cons line lines =>
    have some : n ≠ 0 := by
      rw [← length]
      exact Nat.succ_ne_zero _
    have above : underHeading heading (line :: lines) = [heading] ++ (line :: lines) := rfl
    have first : Counted [heading] 1 [] := counted_of_length rfl (by simp [plain])
    rw [above, headed, if_neg some]
    exact first.append counted

/-- The lines about relationships. -/
theorem counted_keys (style : Style) (schema : Schema) :
    Counted (underHeading "-- Foreign Key Constraints"
      (schema.relationships.flatMap (addForeignKey style)))
      (headed (6 * schema.relationships.length)) (schema.relationships.flatMap keyStrings) := by
  have sizes : (schema.relationships.map fun _ => 6).sum = 6 * schema.relationships.length := by
    rw [List.map_const', List.sum_replicate_nat, Nat.mul_comm]
  have counted := Counted.flatMap (counted_addForeignKey style) schema.relationships
  rw [sizes] at counted
  apply counted_underHeading rfl _ counted
  rw [List.length_flatMap]
  exact sizes

/-- The lines about indexes. -/
theorem counted_indexes (style : Style) (schema : Schema) :
    Counted (underHeading "-- Indexes"
      (schema.tables.flatMap fun table => table.indexes.map (createIndex style table)))
      (headed (schema.tables.map (·.indexes.length)).sum)
      (schema.tables.flatMap fun table => table.indexes.flatMap (indexStrings table)) := by
  have counted := Counted.flatMap
    (fun table : Table => counted_map (feeds_createIndex style table) table.indexes) schema.tables
  apply counted_underHeading rfl _ counted
  simp only [List.length_flatMap, List.length_map]

/-- The lines of a script, in either dialect. -/
theorem lineCount_script (style : Style) (schema : Schema) :
    lineCount (script style schema) = lineTotal schema + feedsOf (strings style schema) := by
  have counted := (((counted_header style schema).append
    (Counted.flatMap (counted_createTable style) schema.tables)).append
    (counted_keys style schema)).append (counted_indexes style schema)
  exact counted.lineCount_joined (by simp [header])

end Sql

/-! ## Prisma files -/

namespace Prisma

/-- The strings that are written for a table. -/
def tableStrings (table : Table) : List String :=
  [table.name] ++ table.columns.map (·.name)
    ++ table.indexes.flatMap fun index => index.columns ++ [index.name]

/-- The strings of a schema and of the settings that are written into a file. -/
def strings (settings : Settings) (schema : Schema) : List String :=
  [settings.generator, settings.prisma.provider, settings.prisma.urlEnv]
    ++ schema.tables.flatMap tableStrings

/-- The number of lines of a model. -/
def tableTotal (table : Table) : Nat :=
  3 + table.columns.length + headed table.indexes.length

/-- The number of lines of a Prisma file. -/
def lineTotal (schema : Schema) : Nat :=
  11 + (schema.tables.map tableTotal).sum

/-- The preamble of a Prisma file is eleven lines. -/
theorem counted_preamble (settings : Settings) :
    Counted (preamble settings) 11
      [settings.generator, settings.prisma.provider, settings.prisma.urlEnv] := by
  apply counted_of_length rfl
  unfold preamble
  simp only [feedsOf_cons, feedsOf_nil, feeds_append]
  simp (disch := decide) only [feeds_words]
  omega

/-- Nothing of a column is written into its type and its attributes. -/
theorem feeds_field (field : Field) : feeds field.text = 0 := by
  have scalar : feeds field.scalar.word = 0 := by cases field.scalar <;> rfl
  have optional : feeds (if field.optional then "?" else "") = 0 := by
    cases field.optional <;> rfl
  have mark (mark : Attribute) : feeds (" " ++ mark.text) = 0 := by
    unfold Attribute.text
    cases mark <;> simp only [feeds_append, Nat.toString_eq_repr, feeds_repr] <;> rfl
  simp [Field.text, scalar, optional, feeds_concatenated, feedsOf_map, mark]

/-- The line of a field has the line feeds of the column's name. -/
theorem feeds_fieldLine (settings : Settings) (column : Column) :
    feeds (fieldLine settings column) = feeds column.name := by
  simp only [fieldLine, feeds_append, feeds_padRight, feeds_field]
  simp (disch := decide) only [feeds_words]
  omega

/-- The line of an index has the line feeds of its columns and of its name. -/
theorem feeds_indexLine (index : Index) :
    feeds (indexLine index) = feedsOf (index.columns ++ [index.name]) := by
  have kind : feeds (if index.unique then "@@unique" else "@@index") = 0 := by
    cases index.unique <;> rfl
  have separator : feeds ", " = 0 := rfl
  simp only [indexLine, feeds_append, feedsOf_append, feedsOf_cons, feedsOf_nil, kind,
    feeds_joined separator]
  simp (disch := decide) only [feeds_words]
  omega

/-- The lines of indexes below the one that sets them apart. -/
theorem counted_indexLines (indexes : List Index) :
    Counted (indexLines indexes) (headed indexes.length)
      (indexes.flatMap fun index => index.columns ++ [index.name]) := by
  have counted := counted_map feeds_indexLine indexes
  cases indexes with
  | nil => rfl
  | cons index indexes =>
    have above : Counted [""] 1 [] := rfl
    exact above.append counted

/-- The lines of a model. -/
theorem counted_model (settings : Settings) (table : Table) :
    Counted (modelOf (fieldLine settings) table) (tableTotal table) (tableStrings table) := by
  have opening : Counted ["model " ++ Naming.modelName table.name ++ " \x7b"] 1 [table.name] := by
    apply counted_of_length rfl
    simp only [feedsOf_cons, feedsOf_nil, feeds_append, feeds_modelName]
    simp (disch := decide) only [feeds_words]
    omega
  have fields : Counted (table.columns.map (fieldLine settings)) table.columns.length
      (table.columns.map (·.name)) := by
    apply counted_of_length (List.length_map _)
    rw [feedsOf_map, feedsOf_map, funext (feeds_fieldLine settings)]
  have closing : Counted ["\x7d", ""] 2 [] := rfl
  have counted := ((opening.append fields).append (counted_indexLines table.indexes)).append closing
  unfold Counted at *
  rw [modelOf, counted, tableStrings, tableTotal, List.append_nil]
  omega

/-- The lines of a file. -/
theorem lineCount_file {settings : Settings} {schema : Schema} {text : String}
    (made : file? settings schema = some text) :
    lineCount text = lineTotal schema + feedsOf (strings settings schema) := by
  obtain ⟨lines, all, rfl⟩ := Option.map_eq_some_iff.mp made
  rw [lines?_eq] at all
  split_ifs at all
  obtain rfl := Option.some.inj all
  have counted := (counted_preamble settings).append
    (Counted.flatMap (counted_model settings) schema.tables)
  exact counted.lineCount_joined (by simp [preamble])

/-- Roles do not change the number of lines of a model. -/
theorem tableTotal_withTimestampsByName (table : Table) :
    tableTotal table.withTimestampsByName = tableTotal table := by
  rw [tableTotal, Table.withTimestampsByName, List.length_map]
  rfl

/-- Nor do they change what is written into it. -/
theorem tableStrings_withTimestampsByName (table : Table) :
    tableStrings table.withTimestampsByName = tableStrings table := by
  have names : (table.columns.map Column.withTimestampByName).map (·.name) =
      table.columns.map (·.name) := by
    rw [List.map_map]
    exact congrArg (table.columns.map ·) (funext Column.name_withTimestampByName)
  rw [tableStrings, Table.withTimestampsByName, names]
  rfl

/-- The roles that columns take from their names have no part in the count. -/
theorem lineCount_file_withTimestampsByName {settings : Settings} {schema : Schema} {text : String}
    (made : file? settings schema.withTimestampsByName = some text) :
    lineCount text = lineTotal schema + feedsOf (strings settings schema) := by
  have total : lineTotal schema.withTimestampsByName = lineTotal schema := by
    rw [lineTotal, Schema.withTimestampsByName, List.map_map, Function.comp_def,
      funext tableTotal_withTimestampsByName]
    rfl
  have same : strings settings schema.withTimestampsByName = strings settings schema := by
    rw [strings, Schema.withTimestampsByName, List.flatMap_map,
      funext tableStrings_withTimestampsByName]
    rfl
  rw [lineCount_file made, total, same]

end Prisma

/-! ## Drizzle modules -/

namespace Drizzle

/-- The strings that are written for a table. -/
def tableStrings (table : SchemaPress.Table) : List String :=
  [table.name, table.name] ++ table.columns.flatMap (fun column => [column.name, column.name])
    ++ table.indexes.flatMap fun index => [index.name] ++ index.columns

/-- The strings of a schema and of the settings that are written into a module. -/
def strings (settings : Settings) (schema : Schema) : List String :=
  [settings.generator, settings.drizzle.moduleName] ++ schema.tables.flatMap tableStrings

/-- The number of lines of a table in a module. -/
def tableTotal (table : SchemaPress.Table) : Nat :=
  if table.indexes = [] then 3 + table.columns.length
  else 4 + table.columns.length + table.indexes.length

/-- The number of lines of a Drizzle module, without those that are written into it. -/
def lineTotal (schema : Schema) : Nat :=
  18 + (schema.tables.map tableTotal).sum

/-- The preamble of a Drizzle module is eighteen lines. -/
theorem counted_preamble (settings : Settings) :
    Counted (preamble settings) 18 [settings.generator, settings.drizzle.moduleName] := by
  apply counted_of_length rfl
  have imported : feedsOf (imports.map fun name => "  " ++ name ++ ",") = 0 := by decide +kernel
  unfold preamble
  simp only [feedsOf_append, feedsOf_cons, feedsOf_nil, feeds_append, imported]
  simp (disch := decide) only [feeds_words]
  omega

/-- A literal has the line feeds of its text. -/
theorem feeds_literal (string : String) : feeds (literal string) = feeds string := by
  simp [feeds, literal, Escaped.encode, Escaped.count_body]

/-- A chain has the line feeds of its column's name. -/
theorem feeds_code (chain : Chain) : feeds chain.code = feeds chain.column := by
  have builder : feeds chain.builder.word = 0 := by cases chain.builder <;> rfl
  have call (call : Call) : feeds call.code = 0 := by
    rw [feeds_eq_zero_iff]
    cases call <;> decide
  have options : feeds chain.options.code = 0 := by
    unfold Options.code
    cases chain.options with
    | none => rfl
    | length n =>
      simp only [feeds_append, Nat.toString_eq_repr, feeds_repr]
      rfl
    | precision p s =>
      simp only [feeds_append, Nat.toString_eq_repr, feeds_repr]
      rfl
  have calls : feedsOf (chain.calls.map Call.code) = 0 := by simp [feedsOf_map, call]
  simp only [Chain.code, feeds_append, builder, options, feeds_literal, feeds_concatenated, calls]
  simp (disch := decide) only [feeds_words]
  omega

/-- The line of a column has those of its name twice. -/
theorem feeds_columnLine (column : Column) :
    feeds (columnLine column) = feedsOf [column.name, column.name] := by
  have column : (Chain.ofColumn column).column = column.name := rfl
  simp only [columnLine, feeds_append, feeds_code, column, feedsOf_cons, feedsOf_nil]
  simp (disch := decide) only [feeds_words]
  omega

/-- The line of an index in a module has the line feeds of its name and of its columns. -/
theorem feeds_indexLine (index : Index) :
    feeds (indexLine index) = feedsOf ([index.name] ++ index.columns) := by
  have builder : feeds (indexBuilder index) = 0 := by
    unfold indexBuilder
    cases index.unique <;> rfl
  have separator : feeds ", " = 0 := rfl
  have column (column : String) : feeds ("table." ++ column) = feeds column := by
    simp (disch := decide) [feeds_words]
  have columns : feedsOf (index.columns.map ("table." ++ ·)) = feedsOf index.columns := by
    rw [feedsOf_map, funext column]
    rfl
  simp only [indexLine, feeds_append, builder, feeds_literal, feeds_joined separator, columns,
    feedsOf_append, feedsOf_cons, feedsOf_nil]
  simp (disch := decide) only [feeds_words]
  omega

/-- The lines behind the columns of a table. -/
theorem counted_closing (indexes : List Index) :
    Counted (closing indexes) (if indexes = [] then 1 else 2 + indexes.length)
      (indexes.flatMap fun index => [index.name] ++ index.columns) := by
  have counted := counted_map feeds_indexLine indexes
  cases indexes with
  | nil => rfl
  | cons index indexes =>
    have before : Counted ["\x7d, (table) => ["] 1 [] := rfl
    have after : Counted ["]);"] 1 [] := rfl
    have counted := (before.append counted).append after
    have some : index :: indexes ≠ [] := List.cons_ne_nil _ _
    have lines : closing (index :: indexes) =
        ["\x7d, (table) => ["] ++ (index :: indexes).map indexLine ++ ["]);"] := rfl
    unfold Counted at *
    rw [lines, counted, if_neg some, List.append_nil, List.nil_append]
    omega

/-- The lines of a table in a module. -/
theorem counted_table (table : SchemaPress.Table) :
    Counted (Drizzle.table table) (tableTotal table) (tableStrings table) := by
  have opening : Counted
      ["export const " ++ table.name ++ " = pgTable(" ++ literal table.name ++ ", \x7b"] 1
      [table.name, table.name] := by
    apply counted_of_length rfl
    simp only [feedsOf_cons, feedsOf_nil, feeds_append, feeds_literal]
    simp (disch := decide) only [feeds_words]
    omega
  have columns := counted_map feeds_columnLine table.columns
  have ending : Counted [""] 1 [] := rfl
  have counted := ((opening.append columns).append (counted_closing table.indexes)).append ending
  unfold Counted at *
  rw [Drizzle.table, counted, tableStrings, tableTotal, List.append_nil]
  split_ifs
  · omega
  · omega

/-- The lines of a module. -/
theorem lineCount_moduleText (settings : Settings) (schema : Schema) :
    lineCount (moduleText settings schema) =
      lineTotal schema + feedsOf (strings settings schema) := by
  have counted := (counted_preamble settings).append (Counted.flatMap counted_table schema.tables)
  exact counted.lineCount_joined (by simp [preamble])

end Drizzle

/-! ## Exports -/

namespace Schema

/-- The number of lines of a schema in a format, apart from the line feeds in its strings. -/
def lineTotal (schema : Schema) : Format → Nat
  | .postgresql => Sql.lineTotal schema
  | .mysql => Sql.lineTotal schema
  | .prisma => Prisma.lineTotal schema
  | .drizzle => Drizzle.lineTotal schema
  | .json => schema.jsonLines

/-- The strings of a schema and of the settings that are written as they are. -/
def rawStrings (settings : Settings) (schema : Schema) : Format → List String
  | .postgresql => Sql.strings (.ofSettings .postgres settings) schema
  | .mysql => Sql.strings (.ofSettings .mysql settings) schema
  | .prisma => Prisma.strings settings schema
  | .drizzle => Drizzle.strings settings schema
  | .json => []

/-- What is rendered in a format has as many lines as are counted for it. -/
theorem lineCount_render {settings : Settings} {schema : Schema} {format : Format} {text : String}
    (rendered : (Target.ofFormat format).render settings (schema.prepared format) = .ok text) :
    lineCount text = schema.lineTotal format + feedsOf (schema.rawStrings settings format) := by
  cases format with
  | postgresql =>
    obtain rfl := Except.ok.inj rendered
    have script := Sql.lineCount_script (.ofSettings .postgres settings) schema
    rwa [← Sql.script_withTimestampsByName] at script
  | mysql =>
    obtain rfl := Except.ok.inj rendered
    have script := Sql.lineCount_script (.ofSettings .mysql settings) schema
    rwa [← Sql.script_withTimestampsByName] at script
  | prisma =>
    have file : Target.prisma.render settings schema.withTimestampsByName = .ok text := rendered
    rw [Target.render] at file
    split at file
    case h_1 written made =>
      obtain rfl := Except.ok.inj file
      exact Prisma.lineCount_file_withTimestampsByName made
    case h_2 => cases file
  | drizzle =>
    obtain rfl := Except.ok.inj rendered
    have code := Drizzle.lineCount_moduleText settings schema
    rwa [← Drizzle.moduleText_withTimestampsByName] at code
  | json =>
    obtain rfl := Except.ok.inj rendered
    exact lineCount_canonical schema

/-- The number of lines that is shown beside an export is that of its text, one more than there are
line feeds in it. It is the number that the shape of the schema gives and as many more as there are
line feeds in the strings that are written as they are. So it is the former exactly if these strings
have none. In JSON there are no such strings. -/
theorem exportAs_lineCount {settings : Settings} {schema : Schema} {format : Format}
    {result : Export} (exported : schema.exportAs settings format = .ok result) :
    result.lineCount = (cutAt '\n' result.text.toList).length ∧
    result.lineCount = result.text.toList.count '\n' + 1 ∧
    result.lineCount = schema.lineTotal format + feedsOf (schema.rawStrings settings format) ∧
    (result.lineCount = schema.lineTotal format ↔
      ∀ text ∈ schema.rawStrings settings format, '\n' ∉ text.toList) := by
  cases rendered : (Target.ofFormat format).render settings (schema.prepared format) with
  | error failure =>
    have failed : schema.exportAs settings format = .error failure := by
      rw [exportAs, rendered]
      rfl
    rw [failed] at exported
    cases exported
  | ok text =>
    rw [exportAs_of_render rendered] at exported
    obtain rfl := Except.ok.inj exported
    have counted : lineCount text =
        schema.lineTotal format + feedsOf (schema.rawStrings settings format) :=
      lineCount_render rendered
    refine ⟨(length_cutAt '\n' text.toList).symm, rfl, counted, ?_⟩
    rw [← feedsOf_eq_zero_iff]
    show lineCount text = _ ↔ _
    rw [counted]
    omega

/-- The line feed in the description is one more line of the script, but not of the others. -/
theorem exportAs_lineCount_orders :
    let byDay : Index := { name := "by_day", columns := ["day"] }
    let orders : Table :=
      { name := "orders", description := some "open\nor paid", columns := [], indexes := [byDay] }
    let shop : Schema := { name := "shop", tables := [orders] }
    (∃ result, shop.exportAs {} .postgresql = .ok result ∧ result.lineCount = 12) ∧
    (∃ result, shop.exportAs {} .drizzle = .ok result ∧ result.lineCount = 23) ∧
    (∃ result, shop.exportAs {} .json = .ok result ∧ result.lineCount = 21) := by
  intro byDay orders shop
  have script : shop.exportAs {} .postgresql = .ok _ := exportAs_of_render rfl
  have code : shop.exportAs {} .drizzle = .ok _ := exportAs_of_render rfl
  have json : shop.exportAs {} .json = .ok _ := exportAs_of_render rfl
  refine ⟨⟨_, script, (exportAs_lineCount script).2.2.1.trans ?_⟩,
    ⟨_, code, (exportAs_lineCount code).2.2.1.trans ?_⟩,
    ⟨_, json, (exportAs_lineCount json).2.2.1.trans ?_⟩⟩
  · decide +kernel
  · decide +kernel
  · decide +kernel

end Schema

end SchemaPress
