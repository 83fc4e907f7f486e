/-!
# Indexes

An index of a table; the order of its columns is the order of its key.
-/

set_option autoImplicit false

namespace SchemaPress

/-- An index over some columns of a table. -/
structure Index where
  name : String
  columns : List String
  unique : Bool := false
  deriving DecidableEq, Repr, Inhabited

end SchemaPress
