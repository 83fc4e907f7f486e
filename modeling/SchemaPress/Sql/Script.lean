import SchemaPress.Naming
import SchemaPress.Schema.Basic
import SchemaPress.Settings.Basic
import SchemaPress.Sql.Dialect

/-!
# SQL scripts

A script that creates a database in one dialect: a header, a statement for each table, one for each
relationship and one for each index. Tables come first, so that every relationship and every index
finds its table, and within each group the order is that of the schema.
-/

set_option autoImplicit false

namespace SchemaPress.Sql

/-- What the statements of a script depend on beside the schema. -/
structure Style where
  dialect : Dialect
  quoted : Bool := false
  generator : String := "SchemaCraft"
  deriving DecidableEq, Repr, Inhabited

namespace Style

/-- The style that some settings ask for. -/
def ofSettings (dialect : Dialect) (settings : Settings) : Style :=
  { dialect, quoted := settings.sql.quoteIdentifiers, generator := settings.generator }

/-- An identifier as a script of the style writes it. -/
def identifier (style : Style) (name : String) : String :=
  style.dialect.identifier style.quoted name

end Style

/-- A constraint or default behind the type of a column. -/
inductive Modifier where
  | autoIncrement (keyword : String)
  | primaryKey
  | notNull
  | unique
  | default (expression : String)
  deriving DecidableEq, Repr, Inhabited

/-- The words of a modifier. -/
def Modifier.words : Modifier → String
  | autoIncrement keyword => keyword
  | primaryKey => "PRIMARY KEY"
  | notNull => "NOT NULL"
  | unique => "UNIQUE"
  | default expression => "DEFAULT " ++ expression

/-- The modifiers of a column, in the order in which they are written. A column that counts by
itself has to be a key, so it is unique where it is no primary key. -/
def modifiers (dialect : Dialect) (column : Column) : List Modifier :=
  let counts := dialect.autoIncrement? column.type
  counts.toList.map .autoIncrement
    ++ (if column.primaryKey then [.primaryKey] else [])
    ++ (if column.needsNotNull then [.notNull] else [])
    ++ (if column.needsUnique || (counts.isSome && !column.primaryKey) then [.unique] else [])
    ++ column.default?.toList.map .default

/-- The blanks in front of a line inside a statement. -/
def indent : String := "    "

/-- The line that defines a column: its name, its type and its modifiers. -/
def columnDefinition (style : Style) (column : Column) : String :=
  indent ++ style.identifier column.name ++ " " ++ style.dialect.nativeType column.type
    ++ Text.concatenated
      ((modifiers style.dialect column).map fun modifier => " " ++ modifier.words)

/-- The title of a script for a schema without a name. -/
def untitled : String := "Database Schema"

/-- The lines at the head of a script. -/
def header (style : Style) (schema : Schema) : List String :=
  ["-- " ++ (if schema.name = "" then untitled else schema.name),
    "-- Generated by " ++ style.generator,
    "-- Dialect: " ++ style.dialect.label,
    ""]

/-- The lines that create a table. -/
def createTable (style : Style) (table : Table) : List String :=
  (table.description.filter (· ≠ "")).toList.map ("-- " ++ ·)
    ++ ["CREATE TABLE " ++ style.identifier table.name ++ " (",
      Text.joined ",\n" (table.columns.map (columnDefinition style)),
      ");",
      ""]

/-- The lines that add the foreign key of a relationship. -/
def addForeignKey (style : Style) (relationship : Relationship) : List String :=
  ["ALTER TABLE " ++ style.identifier relationship.fromTable,
    indent ++ "ADD CONSTRAINT " ++ style.identifier
      (Naming.foreignKeyName relationship.fromTable relationship.fromColumn),
    indent ++ "FOREIGN KEY (" ++ style.identifier relationship.fromColumn ++ ")",
    indent ++ "REFERENCES " ++ style.identifier relationship.toTable ++ "("
      ++ style.identifier relationship.toColumn ++ ")",
    indent ++ "ON DELETE " ++ relationship.onDeleteOrCascade.sql ++ ";",
    ""]

/-- The line that creates an index of a table. -/
def createIndex (style : Style) (table : Table) (index : Index) : String :=
  "CREATE " ++ (if index.unique then "UNIQUE " else "") ++ "INDEX " ++ style.identifier index.name
    ++ " ON " ++ style.identifier table.name ++ " ("
    ++ Text.joined ", " (index.columns.map style.identifier) ++ ");"

/-- A heading and some lines, or nothing where there are no lines. -/
def underHeading (heading : String) (lines : List String) : List String :=
  if lines.isEmpty then [] else heading :: lines

/-- The lines of the script of a schema. -/
def lines (style : Style) (schema : Schema) : List String :=
  header style schema
    ++ schema.tables.flatMap (createTable style)
    ++ underHeading "-- Foreign Key Constraints"
      (schema.relationships.flatMap (addForeignKey style))
    ++ underHeading "-- Indexes"
      (schema.tables.flatMap fun table => table.indexes.map (createIndex style table))

/-- The script of a schema. -/
def script (style : Style) (schema : Schema) : String :=
  Text.joined "\n" (lines style schema)

end SchemaPress.Sql
