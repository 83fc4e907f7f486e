import SchemaPress.Format

/-!
# Settings

What a user can set about the outputs. Every setting has a standard value.
-/

set_option autoImplicit false

namespace SchemaPress

/-- Settings of the two SQL dialects. -/
structure SqlSettings where
  /-- Whether the names of tables, columns, constraints and indexes are quoted. -/
  quoteIdentifiers : Bool := false
  deriving DecidableEq, Repr, Inhabited

/-- Settings of Prisma schema files. -/
structure PrismaSettings where
  /-- The provider of the data source. -/
  provider : String := "postgresql"
  /-- The environment variable that holds the address of the database. -/
  urlEnv : String := "DATABASE_URL"
  /-- The width that field names are padded to. -/
  fieldWidth : Nat := 20
  deriving DecidableEq, Repr, Inhabited

/-- Settings of Drizzle modules. -/
structure DrizzleSettings where
  /-- The module that the column builders come from. -/
  moduleName : String := "drizzle-orm/pg-core"
  deriving DecidableEq, Repr, Inhabited

/-- All settings. -/
structure Settings where
  /-- The name in the header of every output. -/
  generator : String := "SchemaCraft"
  /-- The format of an export for which none is given. -/
  defaultFormat : Format := .standard
  sql : SqlSettings := {}
  prisma : PrismaSettings := {}
  drizzle : DrizzleSettings := {}
  deriving DecidableEq, Repr, Inhabited

end SchemaPress
