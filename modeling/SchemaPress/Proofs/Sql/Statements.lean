import SchemaPress.Proofs.Text.Joining
import SchemaPress.Sql.Script

/-!
# The statements of a script, written out

Each statement of a script word by word: the lines that create a table with the definitions of its
columns, the six lines that add a foreign key and the line that creates an index. Nothing but the
dialect, whether names are quoted, and the table, the relationship or the index itself has a part in
them, and the script writes just these (`createTable_eq`, `addForeignKey_eq`, `createIndex_eq`).
-/

set_option autoImplicit false

namespace SchemaPress.Sql

/-! ## Columns -/

/-- The words behind the type of a column. A primary key implies the other constraints, and a column
that counts by itself in MySQL is unique where it is no primary key. -/
def columnWords (dialect : Dialect) (column : Column) : List String :=
  let counts : Bool := dialect = .mysql && column.type.base = "SERIAL"
  (if counts then ["AUTO_INCREMENT"] else [])
    ++ (if column.primaryKey then ["PRIMARY KEY"] else [])
    ++ (if !column.nullable && !column.primaryKey then ["NOT NULL"] else [])
    ++ (if (column.unique || counts) && !column.primaryKey then ["UNIQUE"] else [])
    ++ match column.default with
      | none => []
      | some expression => if expression = "" then [] else ["DEFAULT " ++ expression]

/-- The line that defines a column: its name, its type and the words behind it. -/
def columnLine (dialect : Dialect) (quoted : Bool) (column : Column) : String :=
  "    " ++ " ".intercalate (dialect.identifier quoted column.name
    :: dialect.nativeType column.type :: columnWords dialect column)

/-- A column counts by itself only in MySQL and only where its type is `SERIAL`. -/
theorem autoIncrement?_eq (dialect : Dialect) (tag : TypeTag) :
    dialect.autoIncrement? tag =
      if dialect = .mysql && tag.base = "SERIAL" then some "AUTO_INCREMENT" else none := by
  cases dialect with
  | postgres => rfl
  | mysql => simp [Dialect.autoIncrement?]

/-- A default that is not empty stands behind its keyword. -/
theorem words_default (column : Column) :
    (column.default?.toList.map Modifier.default).map Modifier.words =
      match column.default with
      | none => []
      | some expression => if expression = "" then [] else ["DEFAULT " ++ expression] := by
  unfold Column.default?
  cases column.default with
  | none => rfl
  | some expression => by_cases empty : expression = "" <;> simp [empty, Modifier.words]

/-- The modifiers of a column read as the words behind its type. -/
theorem words_modifiers (dialect : Dialect) (column : Column) :
    (modifiers dialect column).map Modifier.words = columnWords dialect column := by
  unfold modifiers columnWords Column.needsNotNull Column.needsUnique
  rw [autoIncrement?_eq, List.map_append, words_default]
  congr 1
  -- The constraints depend on these four flags only.
  cases (dialect = .mysql && column.type.base = "SERIAL" : Bool) <;> cases column.primaryKey <;>
    cases column.nullable <;> cases column.unique <;> rfl

/-- A column is defined by its name, its type and the words of its modifiers. -/
theorem columnDefinition_words (style : Style) (column : Column) :
    columnDefinition style column = "    " ++ " ".intercalate (style.identifier column.name
      :: style.dialect.nativeType column.type
      :: (modifiers style.dialect column).map Modifier.words) := by
  have behind : (modifiers style.dialect column).map (fun modifier => " " ++ modifier.words) =
      ((modifiers style.dialect column).map Modifier.words).map (" " ++ ·) := by
    rw [List.map_map]
    rfl
  rw [columnDefinition, behind, String.intercalate_cons_cons, ← Text.append_concatenated]
  simp only [indent, String.append_assoc]

/-- A column is defined by its written line. -/
theorem columnDefinition_eq (style : Style) (column : Column) :
    columnDefinition style column = columnLine style.dialect style.quoted column := by
  rw [columnDefinition_words, words_modifiers]
  rfl

/-! ## Statements -/

/-- The lines of the statement that creates a table, behind its description where it has one. -/
def tableBlock (dialect : Dialect) (quoted : Bool) (table : Table) : List String :=
  (match table.description with
    | none => []
    | some description => if description = "" then [] else ["-- " ++ description])
  ++ ["CREATE TABLE " ++ dialect.identifier quoted table.name ++ " (",
    ",\n".intercalate (table.columns.map (columnLine dialect quoted)),
    ");",
    ""]

/-- What happens to a row when the row it refers to is deleted; it is deleted as well where nothing
is said of it. -/
def deletionWord : Option ReferenceAction → String
  | none | some .cascade => "CASCADE"
  | some .restrict => "RESTRICT"
  | some .setNull => "SET NULL"
  | some .setDefault => "SET DEFAULT"
  | some .noAction => "NO ACTION"
  | some (.other text) => text

/-- The lines of the statement that adds the foreign key of a relationship. -/
def keyBlock (dialect : Dialect) (quoted : Bool) (relationship : Relationship) : List String :=
  let name := dialect.identifier quoted
  ["ALTER TABLE " ++ name relationship.fromTable,
    "    ADD CONSTRAINT "
      ++ name ("fk_" ++ relationship.fromTable ++ "_" ++ relationship.fromColumn),
    "    FOREIGN KEY (" ++ name relationship.fromColumn ++ ")",
    "    REFERENCES " ++ name relationship.toTable ++ "(" ++ name relationship.toColumn ++ ")",
    "    ON DELETE " ++ deletionWord relationship.onDelete ++ ";",
    ""]

/-- The line of the statement that creates an index of a table. -/
def indexLine (dialect : Dialect) (quoted : Bool) (table : Table) (index : Index) : String :=
  let name := dialect.identifier quoted
  (if index.unique then "CREATE UNIQUE INDEX " else "CREATE INDEX ") ++ name index.name
    ++ " ON " ++ name table.name ++ " (" ++ ", ".intercalate (index.columns.map name) ++ ");"

/-- A table is created by its written lines. -/
theorem createTable_eq (style : Style) (table : Table) :
    createTable style table = tableBlock style.dialect style.quoted table := by
  unfold createTable tableBlock
  rw [funext (columnDefinition_eq style), Text.joined_eq_intercalate]
  cases table.description with
  | none => rfl
  | some description =>
    by_cases empty : description = ""
    · subst empty
      rfl
    · simp only [Option.filter, empty, ne_eq, not_false_eq_true, decide_true, if_true, if_false]
      rfl

/-- A foreign key is added by its written lines. -/
theorem addForeignKey_eq (style : Style) (relationship : Relationship) :
    addForeignKey style relationship = keyBlock style.dialect style.quoted relationship := by
  have deletion : relationship.onDeleteOrCascade.sql = deletionWord relationship.onDelete := by
    unfold Relationship.onDeleteOrCascade
    cases relationship.onDelete with
    | none => rfl
    | some action => cases action <;> rfl
  unfold addForeignKey
  rw [deletion]
  rfl

/-- An index is created by its written line. -/
theorem createIndex_eq (style : Style) (table : Table) (index : Index) :
    createIndex style table index = indexLine style.dialect style.quoted table index := by
  unfold createIndex indexLine
  rw [Text.joined_eq_intercalate]
  cases index.unique <;> rfl

end SchemaPress.Sql
