/-!
# Columns that keep a time by themselves

A column can be set when its row is inserted, or at every update. By convention the columns
`created_at` and `updated_at` play these roles, under exactly these names.
-/

set_option autoImplicit false

namespace SchemaPress

/-- When a column takes the current time by itself. -/
inductive TimestampRole where
  | onCreate
  | onUpdate
  deriving DecidableEq, Repr, Inhabited

namespace TimestampRole

/-- All roles. -/
def all : List TimestampRole := [onCreate, onUpdate]

/-- The word for a role. -/
def word : TimestampRole → String
  | onCreate => "auto_create_timestamp"
  | onUpdate => "auto_update_timestamp"

/-- The role that a column's name gives it by convention. -/
def ofColumnName? (name : String) : Option TimestampRole :=
  if name = "created_at" then some onCreate
  else if name = "updated_at" then some onUpdate
  else none

end TimestampRole

end SchemaPress
