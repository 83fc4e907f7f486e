import SchemaPress.Document.Shape
import SchemaPress.Settings.Basic

/-!
# Reading settings

How settings are read from a document. Every setting may be left out and then has its standard
value.
-/

set_option autoImplicit false

namespace SchemaPress

open Document

variable {ν : Type} {m : Type → Type} [Monad m] [Source ν m]

def Format.words : List (String × Format) :=
  Format.all.map fun format => (format.word, format)

/-- The fields of the SQL settings. -/
def SqlSettings.shape : Shape ν m (Option Bool) SqlSettings where
  title := "struct SqlConfig"
  fields := [.of "quoteIdentifiers" id (fun value _ => some value) Source.flag]
  empty := none
  finish draft := .ok { quoteIdentifiers := draft.getD false }

namespace PrismaSettings

/-- Prisma settings of which some have been read. -/
structure Draft where
  provider : Option String := none
  urlEnv : Option String := none
  fieldWidth : Option Nat := none
  deriving DecidableEq, Repr, Inhabited

/-- The fields of the Prisma settings. -/
def shape : Shape ν m Draft PrismaSettings where
  title := "struct PrismaConfig"
  fields := [
    .of "provider" (·.provider) (fun value draft => { draft with provider := some value })
      Source.text,
    .of "urlEnv" (·.urlEnv) (fun value draft => { draft with urlEnv := some value }) Source.text,
    .of "fieldWidth" (·.fieldWidth) (fun value draft => { draft with fieldWidth := some value })
      Source.count]
  empty := {}
  finish draft :=
    let standard : PrismaSettings := {}
    .ok {
      provider := draft.provider.getD standard.provider
      urlEnv := draft.urlEnv.getD standard.urlEnv
      fieldWidth := draft.fieldWidth.getD standard.fieldWidth }

end PrismaSettings

/-- The fields of the Drizzle settings. -/
def DrizzleSettings.shape : Shape ν m (Option String) DrizzleSettings where
  title := "struct DrizzleConfig"
  fields := [.of "module" id (fun value _ => some value) Source.text]
  empty := none
  finish draft := .ok { moduleName := draft.getD ({} : DrizzleSettings).moduleName }

namespace Settings

/-- Settings of which some have been read. -/
structure Draft where
  generator : Option String := none
  defaultFormat : Option Format := none
  sql : Option SqlSettings := none
  prisma : Option PrismaSettings := none
  drizzle : Option DrizzleSettings := none
  deriving DecidableEq, Repr, Inhabited

/-- The fields of the settings. -/
def shape : Shape ν m Draft Settings where
  title := "struct SchemaCraftConfig"
  fields := [
    .of "generator" (·.generator) (fun value draft => { draft with generator := some value })
      Source.text,
    .of "defaultFormat" (·.defaultFormat)
      (fun value draft => { draft with defaultFormat := some value })
      (Source.oneOf Format.words),
    .of "sql" (·.sql) (fun value draft => { draft with sql := some value })
      SqlSettings.shape.read,
    .of "prisma" (·.prisma) (fun value draft => { draft with prisma := some value })
      PrismaSettings.shape.read,
    .of "drizzle" (·.drizzle) (fun value draft => { draft with drizzle := some value })
      DrizzleSettings.shape.read]
  empty := {}
  finish draft :=
    let standard : Settings := {}
    .ok {
      generator := draft.generator.getD standard.generator
      defaultFormat := draft.defaultFormat.getD standard.defaultFormat
      sql := draft.sql.getD {}
      prisma := draft.prisma.getD {}
      drizzle := draft.drizzle.getD {} }

def read (node : ν) : m Settings :=
  shape.read node

end Settings

end SchemaPress
