import SchemaPress.Schema.Cardinality
import SchemaPress.Schema.ReferenceAction

/-!
# Relationships

A column of one table that refers to a column of another. Nothing asks whether the two exist.
-/

set_option autoImplicit false

namespace SchemaPress

/-- A reference from one column to another. -/
structure Relationship where
  fromTable : String
  fromColumn : String
  toTable : String
  toColumn : String
  cardinality : Cardinality
  onDelete : Option ReferenceAction := none
  deriving BEq, Repr, Inhabited

namespace Relationship

/-- The action on deletion; where none is given, deletion cascades. -/
def onDeleteOrCascade (relationship : Relationship) : ReferenceAction :=
  relationship.onDelete.getD .cascade

end Relationship

end SchemaPress
