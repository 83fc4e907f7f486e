import SchemaPress.Schema.Basic

/-!
# Equality of schemas

Actions and cardinalities are equal when they are spelt alike, so equality of schemas is coarser
than being the same. The normal form of a schema has, for every spelling, the one action or
cardinality that is read from it; two schemas are equal exactly when their normal forms are the same
(`beq_iff_normal`).
-/

set_option autoImplicit false

namespace SchemaPress

/-- Equality of lists with the items compared by what they become. -/
theorem beq_list_iff {α β : Type} [BEq α] {normal : α → β}
    (items : ∀ first second : α, (first == second) = true ↔ normal first = normal second)
    (first second : List α) : (first == second) = true ↔ first.map normal = second.map normal := by
  induction first generalizing second with
  | nil => cases second <;> simp
  | cons item first ih => cases second <;> simp [items, ih]

/-- Equality of values that may be absent, compared by what they become. -/
theorem beq_option_iff {α β : Type} [BEq α] {normal : α → β}
    (values : ∀ first second : α, (first == second) = true ↔ normal first = normal second)
    (first second : Option α) :
    (first == second) = true ↔ first.map normal = second.map normal := by
  cases first <;> cases second <;> simp [values]

namespace ReferenceAction

/-- The action that the spelling of an action names. -/
def normal (action : ReferenceAction) : ReferenceAction :=
  .ofSql action.sql

/-- An action in its normal form is spelt as before. -/
@[simp]
theorem sql_normal (action : ReferenceAction) : action.normal.sql = action.sql :=
  sql_ofSql action.sql

/-- A normal form is its own normal form. -/
theorem normal_normal (action : ReferenceAction) : action.normal.normal = action.normal :=
  congrArg ofSql action.sql_normal

/-- Actions are equal exactly when their normal forms are the same. -/
theorem beq_iff_normal (first second : ReferenceAction) :
    (first == second) = true ↔ first.normal = second.normal := by
  rw [beq_iff]
  constructor
  · intro same
    rw [normal, normal, same]
  · intro same
    rw [← sql_normal first, same, sql_normal]

end ReferenceAction

namespace Cardinality

/-- The cardinality that the word for a cardinality names. -/
def normal (cardinality : Cardinality) : Cardinality :=
  .ofWord cardinality.word

/-- A cardinality in its normal form has the word that it had. -/
@[simp]
theorem word_normal (cardinality : Cardinality) : cardinality.normal.word = cardinality.word :=
  word_ofWord cardinality.word

/-- So it is for cardinalities. -/
theorem normal_normal (cardinality : Cardinality) :
    cardinality.normal.normal = cardinality.normal :=
  congrArg ofWord cardinality.word_normal

/-- Cardinalities are equal exactly when their normal forms are the same. -/
theorem beq_iff_normal (first second : Cardinality) :
    (first == second) = true ↔ first.normal = second.normal := by
  rw [beq_iff]
  constructor
  · intro same
    rw [normal, normal, same]
  · intro same
    rw [← word_normal first, same, word_normal]

end Cardinality

namespace Relationship

/-- A relationship with its cardinality and its action in normal form. -/
def normal (relationship : Relationship) : Relationship :=
  { relationship with
    cardinality := relationship.cardinality.normal
    onDelete := relationship.onDelete.map ReferenceAction.normal }

/-- Relationships are equal exactly when their normal forms are the same. -/
theorem beq_iff_normal (first second : Relationship) :
    (first == second) = true ↔ first.normal = second.normal := by
  have actions := beq_option_iff ReferenceAction.beq_iff_normal first.onDelete second.onDelete
  obtain ⟨table, column, table', column', cardinality, action⟩ := first
  obtain ⟨_, _, _, _, cardinality', action'⟩ := second
  simp only [normal, mk.injEq, ← actions, ← Cardinality.beq_iff_normal]
  show instBEqRelationship.beq _ _ = true ↔ _
  simp [instBEqRelationship.beq]

/-- So it is for relationships. -/
theorem normal_normal (relationship : Relationship) :
    relationship.normal.normal = relationship.normal := by
  simp only [normal, Cardinality.normal_normal, Option.map_map, Function.comp_def,
    ReferenceAction.normal_normal]

end Relationship

namespace Schema

/-- A schema with the cardinalities and actions of its relationships in normal form. -/
def normal (schema : Schema) : Schema :=
  { schema with relationships := schema.relationships.map Relationship.normal }

/-- Schemas are equal exactly when their normal forms are the same. -/
theorem beq_iff_normal (first second : Schema) :
    (first == second) = true ↔ first.normal = second.normal := by
  have relationships := beq_list_iff Relationship.beq_iff_normal first.relationships
    second.relationships
  obtain ⟨name, description, tables, links, suggestions⟩ := first
  obtain ⟨_, _, _, links', _⟩ := second
  simp only [normal, mk.injEq, ← relationships]
  show instBEqSchema.beq _ _ = true ↔ _
  simp [instBEqSchema.beq]

/-- So it is for schemas. -/
theorem normal_normal (schema : Schema) : schema.normal.normal = schema.normal := by
  simp only [normal, List.map_map, Function.comp_def, Relationship.normal_normal]

/-- A schema equals its normal form. -/
theorem normal_beq (schema : Schema) : (schema.normal == schema) = true :=
  (beq_iff_normal _ _).mpr schema.normal_normal

end Schema

end SchemaPress
