import SchemaPress.Json.Printer
import SchemaPress.Json.Reading
import SchemaPress.Settings.Reading

/-!
# Settings as JSON

Settings are written with all fields in the order of their declaration.
-/

set_option autoImplicit false

namespace SchemaPress.Settings

/-- Settings as JSON. -/
def toJson (settings : Settings) : Json.Value :=
  .record [
    ("generator", .text settings.generator),
    ("defaultFormat", .text settings.defaultFormat.word),
    ("sql", .record [("quoteIdentifiers", .flag settings.sql.quoteIdentifiers)]),
    ("prisma", .record [
      ("provider", .text settings.prisma.provider),
      ("urlEnv", .text settings.prisma.urlEnv),
      ("fieldWidth", .number settings.prisma.fieldWidth)]),
    ("drizzle", .record [("module", .text settings.drizzle.moduleName)])]

/-- The settings that a text of JSON holds. -/
def ofJson (text : String) : Except Json.Fault Settings :=
  Json.read Settings.read text

end SchemaPress.Settings
