import SchemaPress.Json.Printer
import SchemaPress.Settings.Basic

/-!
# The formats of files

The two formats of files that the program reads, each described by a JSON Schema document: what the
members of its records are called, which of them have to be there, and what stands for the others.
-/

set_option autoImplicit false

namespace SchemaPress.CommandLine

open Json (Value)

/-- A format of files that the program reads. -/
inductive FileKind where
  /-- Files with a schema. -/
  | model
  /-- Files with settings. -/
  | config
  deriving DecidableEq, Repr, Inhabited

namespace FileKind

def all : List FileKind := [model, config]

def word : FileKind → String
  | model => "model"
  | config => "config"

/-- The format of files with exactly this name. -/
def ofWord? (word : String) : Option FileKind :=
  all.find? fun kind => kind.word == word

/-- The description of a kind of values: the members of a JSON Schema document. -/
abbrev Members := List (String × Value)

def described (words : String) (members : Members) : Members :=
  ("description", .text words) :: members

def ofType (name : String) : Members :=
  [("type", .text name)]

def someText : Members := ofType "string"

def maybeText : Members :=
  [("type", .list [.text "string", .text "null"])]

/-- Values that stand for something else if they are missing. -/
def withDefault (value : Value) (members : Members) : Members :=
  members ++ [("default", value)]

def flag (standard : Bool) : Members :=
  withDefault (.flag standard) (ofType "boolean")

def named (name : String) : Members :=
  [("$ref", .text ("#/$defs/" ++ name))]

/-- Values that are described under a name, and may be absent. -/
def maybeNamed (name : String) : Members :=
  [("anyOf", .list [.record (named name), .record (ofType "null")])]

def listOf (items : Members) : Members :=
  ofType "array" ++ [("items", .record items)]

/-- Lists of values; a missing list is empty. -/
def listOrNone (items : Members) : Members :=
  withDefault (.list []) (ofType "array") ++ [("items", .record items)]

/-- Records with described members, of which some have to be there. -/
def recordOf (members : List (String × Members)) (needed : List String) : Members :=
  ofType "object"
    ++ [("properties", .record (members.map fun (key, value) => (key, .record value)))]
    ++ (if needed.isEmpty then [] else [("required", .list (needed.map .text))])

/-- One of some words, each with a description. -/
def oneOf (words : List (String × String)) : Members :=
  [("oneOf", .list (words.map fun (word, description) =>
    .record (described description (someText ++ [("const", .text word)]))))]

/-- Texts, of which some are shown. -/
def textLike (examples : List String) : Members :=
  someText ++ [("examples", .list (examples.map .text))]

/-- A whole document with a title and the descriptions that it refers to by name. -/
def document (title words : String) (members : Members) (names : List (String × Members)) : Value :=
  .record <|
    [("$schema", .text "https://json-schema.org/draft/2020-12/schema"), ("title", .text title)]
    ++ described words members
    ++ [("$defs", .record (names.map fun (name, value) => (name, .record value)))]

/-- The members of a column. -/
def columnMembers : Members :=
  recordOf [
    ("default", described "Literal or expression, emitted verbatim." maybeText),
    ("description", maybeText),
    ("name", someText),
    ("nullable", flag true),
    ("primary_key", flag false),
    ("temporal", maybeNamed "TemporalDefault"),
    ("type", described
      "Dialect-neutral type tag, e.g. `UUID`, `VARCHAR(255)` or `DECIMAL(5,2)`." someText),
    ("unique", flag false)]
    ["name", "type"]

def indexMembers : Members :=
  recordOf [("columns", listOf someText), ("name", someText), ("unique", flag false)]
    ["name", "columns"]

/-- The members of a relationship. -/
def relationshipMembers : Members :=
  recordOf [
    ("from_column", someText),
    ("from_table", someText),
    ("on_delete", maybeNamed "ReferenceAction"),
    ("to_column", someText),
    ("to_table", someText),
    ("type", named "RelationshipKind")]
    ["from_table", "from_column", "to_table", "to_column", "type"]

/-- The members of a table. -/
def tableMembers : Members :=
  recordOf [
    ("columns", listOf (named "ColumnDef")),
    ("description", maybeText),
    ("indexes", listOrNone (named "IndexDef")),
    ("name", someText)]
    ["name", "columns"]

/-- The members of a schema. -/
def schemaMembers : Members :=
  recordOf [
    ("description", maybeText),
    ("name", someText),
    ("relationships", listOrNone (named "RelationshipDef")),
    ("suggestions", listOrNone someText),
    ("tables", listOf (named "TableDef"))]
    ["name", "tables"]

/-- The document about files with a schema. -/
def modelDocument : Value :=
  document "Schema"
    ("Dialect-neutral description of a whole database.\n\n"
      ++ "Values are built upstream and handed to the exporters as-is. Table names\n"
      ++ "are expected to be unique and relationships to point at existing columns,\n"
      ++ "but neither is checked here.")
    schemaMembers [
      ("ColumnDef", columnMembers),
      ("IndexDef", described
        "Secondary index on a table. Column order is the index key order." indexMembers),
      ("ReferenceAction",
        textLike ["CASCADE", "RESTRICT", "SET NULL", "SET DEFAULT", "NO ACTION"]),
      ("RelationshipDef", described
        ("Foreign key edge between two table/column pairs.\n\nNothing checks that the referenced "
          ++ "tables or columns exist; emitters\nrender whatever they are given.")
        relationshipMembers),
      ("RelationshipKind",
        textLike ["one_to_one", "one_to_many", "many_to_one", "many_to_many"]),
      ("TableDef", described
        "A table. Column and index order is declaration order in every rendering." tableMembers),
      ("TemporalDefault", described "Timestamp behaviour an ORM can maintain on its own." (oneOf [
        ("auto_create_timestamp", "Set once when the row is inserted."),
        ("auto_update_timestamp", "Refreshed on every update.")]))]

/-- Texts that may be missing. -/
def textOr (standard : String) : Members :=
  withDefault (.text standard) someText

/-- The members of settings, with the standard settings. -/
def settingsMembers (standard : Settings) : Members :=
  recordOf [
    ("defaultFormat", described "Format used when none is given on the command line."
      (withDefault (.text standard.defaultFormat.word) (named "ExportFormat"))),
    ("drizzle", withDefault (.record [("module", .text standard.drizzle.moduleName)])
      (named "DrizzleConfig")),
    ("generator", described "Name written into generated headers." (textOr standard.generator)),
    ("prisma", withDefault
      (.record [
        ("fieldWidth", .number standard.prisma.fieldWidth),
        ("provider", .text standard.prisma.provider),
        ("urlEnv", .text standard.prisma.urlEnv)])
      (named "PrismaConfig")),
    ("sql", withDefault (.record [("quoteIdentifiers", .flag standard.sql.quoteIdentifiers)])
      (named "SqlConfig"))]
    []

/-- The members of Drizzle settings, with the standard settings. -/
def drizzleMembers (standard : DrizzleSettings) : Members :=
  recordOf [("module", described
    "Module the column builders are imported from.\nDefault: `\"drizzle-orm/pg-core\"`"
    (textOr standard.moduleName))] []

/-- The members of Prisma settings, with the standard settings. -/
def prismaMembers (standard : PrismaSettings) : Members :=
  recordOf [
    ("fieldWidth", described "Width field names are padded to. Default: `20`"
      (withDefault (.number standard.fieldWidth) (ofType "integer" ++ [("format", .text "uint")])
        ++ [("minimum", .number 0)])),
    ("provider", described
      "`provider` of the generated `datasource db` block.\nDefault: `\"postgresql\"`"
      (textOr standard.provider)),
    ("urlEnv", described
      "Environment variable holding the connection URL.\nDefault: `\"DATABASE_URL\"`"
      (textOr standard.urlEnv))]
    []

/-- The members of SQL settings, with the standard settings. -/
def sqlMembers (standard : SqlSettings) : Members :=
  recordOf [("quoteIdentifiers", described
    ("Quote table, column, constraint and index names with the dialect's\nquote character. "
      ++ "Default: `false`.")
    (flag standard.quoteIdentifiers))] []

/-- The document about files with settings. -/
def configDocument : Value :=
  document "SchemaCraftConfig" "Top-level schemacraft configuration." (settingsMembers {}) [
    ("DrizzleConfig", described "Drizzle export configuration." (drizzleMembers {})),
    ("ExportFormat", described "Supported export targets." (oneOf [
      (Format.postgresql.word, "PostgreSQL DDL."),
      (Format.mysql.word, "MySQL DDL."),
      (Format.prisma.word, "Prisma schema file."),
      (Format.drizzle.word, "Drizzle ORM table definitions."),
      (Format.json.word, "Canonical JSON.")])),
    ("PrismaConfig", described "Prisma schema export configuration." (prismaMembers {})),
    ("SqlConfig", described "SQL DDL export configuration." (sqlMembers {}))]

def description : FileKind → Value
  | model => modelDocument
  | config => configDocument

end FileKind

end SchemaPress.CommandLine
