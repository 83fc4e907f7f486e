import SchemaPress.Proofs.Sql.ScriptOrder
import SchemaPress.Proofs.Sql.UniqueReading

/-!
# The names of foreign key constraints

A constraint is named by the table and the column of its foreign key with an underscore between
them. That underscore may also be one inside a name, so the name does not say where the table ends:
the column `item_id` of the table `order` and the column `id` of the table `order_item` have
constraints of one name (`constraintNames_clash`). This is the only way in which two keys share a
name (`Naming.foreignKeyName_eq_iff`), and neither the dialect nor quoting matters. So the names in
a script are distinct exactly if no two of its keys overlap in this way
(`constraintNames_nodup_iff`).
-/

set_option autoImplicit false

namespace SchemaPress

/-- Says that the table of a foreign key is that of another key and a further word, with which the
column of the other key begins. -/
def Relationship.Overlaps (relationship other : Relationship) : Prop :=
  ∃ word, relationship.fromTable = other.fromTable ++ "_" ++ word ∧
    other.fromColumn = word ++ "_" ++ relationship.fromColumn

namespace Naming

/-- Two joined names are the same where the first parts have the same length, or where the longer
first part goes on with the mark and a word that the other second part begins with. -/
theorem append_mark_eq_iff (mark : Char) (front back front' back' : List Char) :
    front ++ mark :: back = front' ++ mark :: back' ↔
      (front = front' ∧ back = back') ∨
      (∃ word, front = front' ++ mark :: word ∧ back' = word ++ mark :: back) ∨
      ∃ word, front' = front ++ mark :: word ∧ back = word ++ mark :: back' := by
  constructor
  · intro same
    rcases List.append_eq_append_iff.mp same with ⟨gap, longer, rest⟩ | ⟨gap, longer, rest⟩
    · cases gap with
      | nil =>
        have backs : back = back' := by simpa using rest
        exact .inl ⟨by simpa using longer.symm, backs⟩
      | cons c word =>
        obtain ⟨rfl, backs⟩ := List.cons_eq_cons.mp rest
        exact .inr (.inr ⟨word, longer, backs⟩)
    · cases gap with
      | nil =>
        have backs : back' = back := by simpa using rest
        exact .inl ⟨by simpa using longer, backs.symm⟩
      | cons c word =>
        obtain ⟨rfl, backs⟩ := List.cons_eq_cons.mp rest
        exact .inr (.inl ⟨word, longer, backs⟩)
  · rintro (⟨rfl, rfl⟩ | ⟨word, rfl, rfl⟩ | ⟨word, rfl, rfl⟩)
    · rfl
    · rw [List.append_assoc, List.cons_append]
    · rw [List.append_assoc, List.cons_append]

/-- The characters of two names with an underscore between them. -/
theorem toList_append_underscore (front back : String) :
    (front ++ "_" ++ back).toList = front.toList ++ '_' :: back.toList := by
  rw [String.toList_append, String.toList_append, List.append_assoc]
  rfl

/-- The characters of the name of a constraint. -/
theorem toList_foreignKeyName (table column : String) :
    (foreignKeyName table column).toList =
      "fk_".toList ++ (table.toList ++ '_' :: column.toList) := by
  rw [foreignKeyName, toList_append_underscore, String.toList_append, List.append_assoc]

/-- Two foreign keys share the name of their constraint exactly if they have the same table and
column or if one of them overlaps the other. -/
theorem foreignKeyName_eq_iff (first second : Relationship) :
    foreignKeyName first.fromTable first.fromColumn =
        foreignKeyName second.fromTable second.fromColumn ↔
      (first.fromTable, first.fromColumn) = (second.fromTable, second.fromColumn) ∨
        first.Overlaps second ∨ second.Overlaps first := by
  have overlaps (relationship other : Relationship) :
      relationship.Overlaps other ↔ ∃ word : List Char,
        relationship.fromTable.toList = other.fromTable.toList ++ '_' :: word ∧
          other.fromColumn.toList = word ++ '_' :: relationship.fromColumn.toList := by
    constructor
    · rintro ⟨word, table, column⟩
      refine ⟨word.toList, ?_, ?_⟩
      · rw [table, toList_append_underscore]
      · rw [column, toList_append_underscore]
    · rintro ⟨word, table, column⟩
      refine ⟨String.ofList word, ?_, ?_⟩
      · apply String.toList_inj.mp
        rw [table, toList_append_underscore, String.toList_ofList]
      · apply String.toList_inj.mp
        rw [column, toList_append_underscore, String.toList_ofList]
  rw [← String.toList_inj, toList_foreignKeyName, toList_foreignKeyName,
    List.append_cancel_left_eq, append_mark_eq_iff, String.toList_inj, String.toList_inj,
    Prod.mk.injEq, overlaps, overlaps]

end Naming

namespace Sql

/-- The names that a script gives to constraints, in the order of the relationships. -/
def constraintNames (style : Style) (schema : Schema) : List String :=
  schema.relationships.map fun relationship =>
    style.identifier (Naming.foreignKeyName relationship.fromTable relationship.fromColumn)

/-- The second lines of the statements that add foreign keys. -/
def constraintLines (style : Style) (schema : Schema) : List (Option String) :=
  (List.range schema.relationships.length).map fun j =>
    (lines style schema)[keyPlace schema j + 1]?

/-- The second line of a statement that adds a foreign key names the constraint. -/
theorem constraintLines_eq (style : Style) (schema : Schema) :
    constraintLines style schema =
      (constraintNames style schema).map fun name => some ("    ADD CONSTRAINT " ++ name) := by
  apply List.ext_getElem
  · simp [constraintLines, constraintNames]
  · intro j bound bound'
    have inside : j < schema.relationships.length := by simpa [constraintLines] using bound
    have place := key_at style (List.getElem?_eq_getElem inside)
    have second : (lines style schema)[keyPlace schema j + 1]? =
        (keyBlock style.dialect style.quoted schema.relationships[j])[1]? := by
      rw [← place, List.getElem?_take_of_lt (by decide), List.getElem?_drop]
    simp only [constraintLines, constraintNames, List.getElem_map, List.getElem_range, second]
    rfl

/-- The constraints of a script have distinct names exactly if no two foreign keys are those of one
table and column and no two overlap. This holds in both dialects, with quoted names and without. -/
theorem constraintNames_nodup_iff (style : Style) (schema : Schema) :
    constraintLines style schema =
      (constraintNames style schema).map (fun name => some ("    ADD CONSTRAINT " ++ name)) ∧
    ((constraintNames style schema).Nodup ↔
      (schema.relationships.map fun relationship =>
        (relationship.fromTable, relationship.fromColumn)).Nodup ∧
      schema.relationships.Pairwise fun first second =>
        ¬ first.Overlaps second ∧ ¬ second.Overlaps first) := by
  refine ⟨constraintLines_eq style schema, ?_⟩
  have apart (first second : Relationship) :
      style.identifier (Naming.foreignKeyName first.fromTable first.fromColumn) ≠
          style.identifier (Naming.foreignKeyName second.fromTable second.fromColumn) ↔
        (first.fromTable, first.fromColumn) ≠ (second.fromTable, second.fromColumn) ∧
          ¬ first.Overlaps second ∧ ¬ second.Overlaps first := by
    rw [Ne, identifier_inj, Naming.foreignKeyName_eq_iff, not_or, not_or]
  unfold constraintNames List.Nodup
  rw [List.pairwise_map, List.pairwise_map, ← List.pairwise_and_iff]
  exact List.Pairwise.iff apart

/-- Foreign keys of different tables and columns may have constraints of one name. -/
theorem constraintNames_clash :
    ¬ ∀ (style : Style) (schema : Schema),
      (schema.relationships.map fun relationship =>
        (relationship.fromTable, relationship.fromColumn)).Nodup →
        (constraintNames style schema).Nodup := by
  intro always
  let schema : Schema :=
    { name := "shop", tables := [],
      relationships := [
        ⟨"order", "item_id", "item", "id", .manyToOne, none⟩,
        ⟨"order_item", "id", "item", "id", .manyToOne, none⟩] }
  have names := always { dialect := .mysql } schema (by decide)
  exact absurd names (by decide)

end Sql

end SchemaPress
