import SchemaPress.Proofs.Naming
import SchemaPress.Proofs.Prisma.Existence

/-!
# The names of the models of a Prisma file

Each table has a model, which is named after it. Tables of different names may have models of one
name, for instance `order_items` and `orderItems` (`modelNames_clash`). The models of a file have
distinct names exactly if no two tables have names that respellings join, which never happens to
different names of small words (`modelNames_nodup_iff`).
-/

set_option autoImplicit false

namespace SchemaPress.Prisma

/-- The names of the models of a file, in the order of the tables. -/
def modelNames (schema : Schema) : List String :=
  schema.tables.map fun table => Naming.modelName table.name

/-- The first line of a model has its name. -/
theorem head?_models (settings : Settings) (schema : Schema) :
    (models settings schema).map List.head? =
      (modelNames schema).map fun name => some ("model " ++ name ++ " \x7b") := by
  unfold models modelNames
  rw [List.map_map, List.map_map]
  rfl

/-- Tables with small names that are distinct have models with distinct names. -/
theorem modelNames_nodup_of_small {schema : Schema}
    (small : ∀ table ∈ schema.tables, Naming.IsSmall table.name)
    (distinct : (schema.tables.map fun table => table.name).Nodup) : (modelNames schema).Nodup := by
  have names : modelNames schema =
      (schema.tables.map fun table => table.name).map Naming.modelName := by
    rw [modelNames, List.map_map]
    rfl
  rw [names]
  refine List.Nodup.map_on ?_ distinct
  intro name member name' member' same
  obtain ⟨table, inside, rfl⟩ := List.mem_map.mp member
  obtain ⟨table', inside', rfl⟩ := List.mem_map.mp member'
  exact Naming.modelName_inj (small table inside) (small table' inside') same

/-- The models of a Prisma file are named, table by table, after the tables. The names are distinct
exactly if no two tables have alike names. Different names of small words are never alike. -/
theorem modelNames_nodup_iff (settings : Settings) (schema : Schema) :
    (∀ text, file? settings schema = some text →
      text = Text.joined "\n" (preamble settings ++ (models settings schema).flatten)) ∧
    (models settings schema).map List.head? =
      (modelNames schema).map (fun name => some ("model " ++ name ++ " \x7b")) ∧
    ((modelNames schema).Nodup ↔ schema.tables.Pairwise fun first second =>
      ¬ Naming.Alike first.name.toList second.name.toList) ∧
    ((∀ table ∈ schema.tables, Naming.IsSmall table.name) →
      (schema.tables.map fun table => table.name).Nodup → (modelNames schema).Nodup) := by
  refine ⟨?_, head?_models settings schema, ?_, modelNames_nodup_of_small⟩
  · intro text made
    rw [file?, lines?_eq] at made
    split at made
    · exact (Option.some.inj made).symm
    · cases made
  · unfold modelNames List.Nodup
    rw [List.pairwise_map]
    apply List.Pairwise.iff
    intro first second
    exact not_congr (Naming.modelName_eq_iff first.name second.name)

/-- Small words keep their models apart also where a shorter name begins a longer one. -/
theorem modelNames_nodup_iff_shop :
    let tables : List Table := ["order", "order_item", "order_item2", "orderitem"].map fun name =>
      { name, columns := [{ name := "id", type := ⟨"UUID"⟩ }] }
    let schema : Schema := { name := "shop", tables }
    (∃ text, file? {} schema = some text ∧
      text = Text.joined "\n" (preamble {} ++ (models {} schema).flatten)) ∧
    (∀ table ∈ schema.tables, Naming.IsSmall table.name) ∧
    (schema.tables.map fun table => table.name).Nodup ∧ (modelNames schema).Nodup := by
  intro tables schema
  have small : ∀ table ∈ schema.tables, Naming.IsSmall table.name := by decide +kernel
  have distinct : (schema.tables.map fun table => table.name).Nodup := by decide
  obtain ⟨isFile, -, -, apart⟩ := modelNames_nodup_iff {} schema
  have made : (file? {} schema).isSome = true := by decide +kernel
  obtain ⟨text, file⟩ := Option.isSome_iff_exists.mp made
  exact ⟨⟨text, file, isFile text file⟩, small, distinct, apart small distinct⟩

/-- Tables of different names may have models of one name. -/
theorem modelNames_clash :
    ¬ ∀ schema : Schema, (schema.tables.map fun table => table.name).Nodup →
      (modelNames schema).Nodup := by
  intro always
  let tables : List Table := ["order_items", "orderItems"].map fun name => { name, columns := [] }
  have names := always { name := "shop", tables } (by decide)
  exact absurd names (by decide +kernel)

end SchemaPress.Prisma
