import SchemaPress.Json.Value
import SchemaPress.Text.Join
import SchemaPress.Text.Quoted

/-!
# Writing JSON

A value is written in a compact form without any blanks, or in a pretty form with every item and
every member on a line of its own, two blanks further in than the line of the value that holds it.
In a text only quotes, backslashes and control characters are escaped.
-/

set_option autoImplicit false

namespace SchemaPress.Json

/-- A character inside a written text. -/
def escapedChar (c : Char) : List Char :=
  if c = '"' ∨ c = '\\' then ['\\', c]
  else if c = '\x08' then ['\\', 'b']
  else if c = '\x0c' then ['\\', 'f']
  else if c = '\n' then ['\\', 'n']
  else if c = '\r' then ['\\', 'r']
  else if c = '\t' then ['\\', 't']
  else if c.toNat < 16 then "\\u000".toList ++ Text.hexadecimal c.toNat
  else if c.toNat < 32 then "\\u00".toList ++ Text.hexadecimal c.toNat
  else [c]

def quoted (text : String) : String :=
  String.ofList ('"' :: text.toList.flatMap escapedChar ++ ['"'])

namespace Value

mutual

/-- A value without blanks. -/
def compact : Value → String
  | null => "null"
  | flag value => if value then "true" else "false"
  | number value => toString value
  | text value => quoted value
  | list items => "[" ++ Text.joined "," (compactItems items) ++ "]"
  | record members => "\x7b" ++ Text.joined "," (compactMembers members) ++ "\x7d"

/-- The items of a list, each without blanks. -/
def compactItems : List Value → List String
  | [] => []
  | item :: items => compact item :: compactItems items

/-- The members of a record, each without blanks. -/
def compactMembers : List (String × Value) → List String
  | [] => []
  | (key, value) :: members => (quoted key ++ ":" ++ compact value) :: compactMembers members

end

/-- The start of a line inside a number of values. -/
def newLine (depth : Nat) : String :=
  "\n" ++ String.ofList (List.replicate (2 * depth) ' ')

/-- Parts between brackets, each on a line of its own; without parts just the brackets. -/
def bracketed (opening closing : String) (depth : Nat) (parts : List String) : String :=
  if parts.isEmpty then opening ++ closing
  else
    opening ++ newLine (depth + 1) ++ Text.joined ("," ++ newLine (depth + 1)) parts
      ++ newLine depth ++ closing

mutual

/-- A value inside a number of others, with a line for each of its parts. -/
def prettyAt (depth : Nat) : Value → String
  | null => "null"
  | flag value => if value then "true" else "false"
  | number value => toString value
  | text value => quoted value
  | list items => bracketed "[" "]" depth (prettyItems depth items)
  | record members => bracketed "\x7b" "\x7d" depth (prettyMembers depth members)

/-- The items of a list, each with a line for each of its parts. -/
def prettyItems (depth : Nat) : List Value → List String
  | [] => []
  | item :: items => prettyAt (depth + 1) item :: prettyItems depth items

/-- The members of a record, each with a line for each of its parts. -/
def prettyMembers (depth : Nat) : List (String × Value) → List String
  | [] => []
  | (key, value) :: members =>
    (quoted key ++ ": " ++ prettyAt (depth + 1) value) :: prettyMembers depth members

end

/-- A value with a line for each of its parts. -/
def pretty (value : Value) : String :=
  prettyAt 0 value

end Value

end SchemaPress.Json
