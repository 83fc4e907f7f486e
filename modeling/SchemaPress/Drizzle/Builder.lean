import SchemaPress.Schema.Column
import SchemaPress.Text.Join
import SchemaPress.Text.Quoted

/-!
# Drizzle column builders

A column becomes a call of a column builder with the column's name and perhaps some options, and a
chain of further calls behind it.
-/

set_option autoImplicit false

namespace SchemaPress.Drizzle

/-- A function that builds a column. -/
inductive Builder where
  | uuid
  | integer
  | varchar
  | text
  | timestamp
  | date
  | boolean
  | decimal
  | jsonb
  | inet
  deriving DecidableEq, Repr, Inhabited

namespace Builder

/-- The name of a builder. -/
def word : Builder → String
  | uuid => "uuid"
  | integer => "integer"
  | varchar => "varchar"
  | text => "text"
  | timestamp => "timestamp"
  | date => "date"
  | boolean => "boolean"
  | decimal => "decimal"
  | jsonb => "jsonb"
  | inet => "inet"

/-- The builders of the base types that have one. -/
def table : List (String × Builder) := [
  ("UUID", uuid), ("SERIAL", integer), ("INT", integer), ("INTEGER", integer),
  ("VARCHAR", varchar), ("TEXT", text), ("TIMESTAMP", timestamp), ("DATE", date),
  ("BOOLEAN", boolean), ("DECIMAL", decimal), ("JSONB", jsonb), ("JSON", jsonb), ("INET", inet)]

/-- The builder of a base type; an unknown one is text. -/
def ofBase (base : String) : Builder :=
  (table.lookup base).getD text

end Builder

/-- The options of a builder call. -/
inductive Options where
  | none
  | length (length : Nat)
  | precision (precision scale : Nat)
  deriving DecidableEq, Repr, Inhabited

/-- Options as a module writes them behind the name of the column. -/
def Options.code : Options → String
  | none => ""
  | length n => ", \x7b length: " ++ toString n ++ " \x7d"
  | precision p s => ", \x7b precision: " ++ toString p ++ ", scale: " ++ toString s ++ " \x7d"

/-- A call in the chain behind a builder call. -/
inductive Call where
  | primaryKey
  | defaultRandom
  | generatedAlwaysAsIdentity
  | defaultNow
  | notNull
  | unique
  deriving DecidableEq, Repr, Inhabited

/-- A call as a module writes it. -/
def Call.code : Call → String
  | primaryKey => ".primaryKey()"
  | defaultRandom => ".defaultRandom()"
  | generatedAlwaysAsIdentity => ".generatedAlwaysAsIdentity()"
  | defaultNow => ".defaultNow()"
  | notNull => ".notNull()"
  | unique => ".unique()"

def literal (text : String) : String :=
  String.ofList (Text.Escaped.encode '\'' text.toList)

/-- The length of a `VARCHAR` column that names none. -/
def standardLength : Nat := 255

/-- Says whether a text holds the word `NOW`. -/
def mentionsNow (text : String) : Bool :=
  Text.holds "NOW".toList text.toList

/-- A builder call and the chain behind it. -/
structure Chain where
  builder : Builder
  column : String
  options : Options
  calls : List Call
  deriving DecidableEq, Repr, Inhabited

namespace Chain

/-- The options that a type tag asks for. -/
def optionsOf (tag : TypeTag) : Options :=
  if tag.base = "VARCHAR" then .length (tag.length?.getD standardLength)
  else if tag.base = "DECIMAL" then
    match tag.precisionScale? with
    | some (precision, scale) => .precision precision scale
    | none => .none
  else .none

/-- The calls for the key and the default of a column. -/
def keyCalls (column : Column) : List Call :=
  if column.primaryKey then
    if column.type.base = "UUID" then [.primaryKey, .defaultRandom]
    else if column.type.base = "SERIAL" then [.primaryKey, .generatedAlwaysAsIdentity]
    else nowCalls ++ [.primaryKey]
  else nowCalls
where
  /-- The call for a default that takes the current time. -/
  nowCalls : List Call :=
    if column.type.base = "TIMESTAMP" && column.default.any mentionsNow then [.defaultNow] else []

/-- The chain made from a column. -/
def ofColumn (column : Column) : Chain where
  builder := Builder.ofBase column.type.base
  column := column.name
  options := optionsOf column.type
  calls := keyCalls column
    ++ (if column.needsNotNull then [.notNull] else [])
    ++ (if column.needsUnique then [.unique] else [])

def code (chain : Chain) : String :=
  chain.builder.word ++ "(" ++ literal chain.column ++ chain.options.code ++ ")"
    ++ Text.concatenated (chain.calls.map Call.code)

end Chain

end SchemaPress.Drizzle
