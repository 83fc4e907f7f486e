import SchemaPress.Schema.Reading
import SchemaPress.Yaml.Reading

/-!
# Schemas as YAML

A schema can be read from YAML; it is never written so.
-/

set_option autoImplicit false

namespace SchemaPress.Schema

/-- The schema that a text of YAML holds. -/
def ofYaml (text : String) : Except Yaml.Fault Schema :=
  Yaml.read Schema.read text

end SchemaPress.Schema
