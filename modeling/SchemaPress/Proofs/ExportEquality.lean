import SchemaPress.Export
import SchemaPress.Proofs.Schema.Codec

/-!
# Equal schemas are exported alike

No format tells equal schemas apart, whatever the settings, and whether the columns have taken the
roles that their names give them or not. The only part in which equal schemas may differ is the way
in which an action or a cardinality is held, and it is only ever written by its spelling.

So a schema that has been exported as JSON and read again is exported in every format as if it had
not been (`exportAs_equal`).
-/

set_option autoImplicit false

namespace SchemaPress

namespace Relationship

/-- The spelling of the action on deletion is that of the normal form. -/
theorem onDeleteOrCascade_normal (relationship : Relationship) :
    relationship.normal.onDeleteOrCascade.sql = relationship.onDeleteOrCascade.sql := by
  unfold onDeleteOrCascade normal
  cases relationship.onDelete with
  | none => rfl
  | some action => exact action.sql_normal

end Relationship

/-- The script of a schema is that of its normal form. -/
theorem Sql.script_normal (style : Style) (schema : Schema) :
    script style schema.normal = script style schema := by
  have keys (relationship : Relationship) :
      addForeignKey style relationship.normal = addForeignKey style relationship := by
    simp only [addForeignKey, Relationship.onDeleteOrCascade_normal]
    rfl
  have constraints : schema.normal.relationships.flatMap (addForeignKey style) =
      schema.relationships.flatMap (addForeignKey style) := by
    simp only [Schema.normal, List.flatMap_map, keys]
  unfold script lines
  rw [constraints]
  rfl

/-- A schema is rendered for every target as its normal form is. -/
theorem Target.render_normal (settings : Settings) (schema : Schema) (target : Target) :
    target.render settings schema.normal = target.render settings schema := by
  -- Prisma and Drizzle look at the name and the tables only, which the normal form leaves alone.
  cases target with
  | sql dialect => exact congrArg Except.ok (Sql.script_normal _ schema)
  | prisma => rfl
  | drizzle => rfl
  | canonical => exact congrArg (Except.ok ∘ Json.Value.pretty) schema.toJson_normal

namespace Schema

/-- Giving columns the roles of their names leaves relationships alone. -/
theorem prepared_normal (schema : Schema) (format : Format) :
    schema.normal.prepared format = (schema.prepared format).normal := by
  unfold prepared
  split <;> rfl

/-- A schema is exported in every format as its normal form is. -/
theorem exportAs_normal (settings : Settings) (schema : Schema) (format : Format) :
    schema.normal.exportAs settings format = schema.exportAs settings format := by
  unfold exportAs
  rw [prepared_normal, Target.render_normal]

/-- Equal schemas are exported alike in every format under all settings. Hence a schema that is read
from any text, exported as JSON and read again is exported as it would have been at once. -/
theorem exportAs_equal :
    (∀ first second : Schema, (first == second) = true → ∀ settings format,
      first.exportAs settings format = second.exportAs settings format) ∧
    (∀ (text : String) (schema : Schema), ofJson text = .ok schema → ∀ settings,
      ∃ json read, schema.exportAs settings .json = .ok json ∧ ofJson json.text = .ok read ∧
        ∀ settings format, read.exportAs settings format = schema.exportAs settings format) := by
  refine ⟨fun first second equal settings format => ?_, fun text schema _ settings => ?_⟩
  · have same : first.normal = second.normal := (beq_iff_normal first second).mp equal
    rw [← exportAs_normal, same, exportAs_normal]
  · exact ⟨⟨.json, schema.canonical, Text.lineCount schema.canonical, Format.json.label⟩,
      schema.normal, rfl, schema.ofJson_canonical,
      fun settings format => exportAs_normal settings schema format⟩

/-- The word that spells the action of cascading is that action in every format, and it is gone once
the schema has been exported as JSON and read again. -/
theorem exportAs_equal_cascade :
    let schema (action : ReferenceAction) : Schema :=
      { name := "shop", tables := [],
        relationships := [⟨"orders", "customer_id", "customers", "id", .manyToOne, some action⟩] }
    (∀ settings format, (schema (.other "CASCADE")).exportAs settings format =
      (schema .cascade).exportAs settings format) ∧
    ∀ settings, ∃ json read, (schema .cascade).exportAs settings .json = .ok json ∧
      ofJson json.text = .ok read ∧
      ∀ settings format, read.exportAs settings format =
        (schema .cascade).exportAs settings format := by
  intro schema
  exact ⟨exportAs_equal.1 _ _ (by decide),
    exportAs_equal.2 (schema (.other "CASCADE")).canonical _ (ofJson_canonical _)⟩

end Schema

end SchemaPress
