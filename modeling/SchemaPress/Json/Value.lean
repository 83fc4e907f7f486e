/-!
# JSON values

Values as they are written: natural numbers are the only numbers, and the members of a record keep
their order.
-/

set_option autoImplicit false

namespace SchemaPress.Json

/-- A JSON value. -/
inductive Value where
  | null
  | flag (value : Bool)
  | number (value : Nat)
  | text (value : String)
  | list (items : List Value)
  | record (members : List (String × Value))
  deriving Repr, Inhabited

namespace Value

/-- The member of a record for a value that may be absent; an absent value has none. -/
def member? (key : String) (value : Option Value) : List (String × Value) :=
  value.toList.map fun value => (key, value)

end Value

end SchemaPress.Json
