import SchemaPress.Text.Join
import SchemaPress.Text.Uppercase

/-!
# Names in the output

The name of the model made from a table, the name of a foreign key constraint, and names padded to a
common width.
-/

set_option autoImplicit false

namespace SchemaPress.Naming

/-- A piece of a name with its first character in upper case. -/
def capitalized : List Char → List Char
  | [] => []
  | c :: cs => Text.upper c ++ cs

/-- The pieces of a name between its underscores, each capitalized, joined without them. -/
def modelChars (table : List Char) : List Char :=
  (Text.cutAt '_' table).flatMap capitalized

/-- The name of the model made from a table. -/
def modelName (table : String) : String :=
  String.ofList (modelChars table.toList)

/-- The widest column that names can be padded to. -/
def maxWidth : Nat := 65535

/-- A name with blanks behind it up to a width, provided the width is not too large. -/
def padded? (name : String) (width : Nat) : Option String :=
  if width ≤ maxWidth then some (Text.padRight width name) else none

/-- The name of the constraint behind a foreign key. -/
def foreignKeyName (table column : String) : String :=
  "fk_" ++ table ++ "_" ++ column

end SchemaPress.Naming
