import Mathlib.Algebra.GroupWithZero.Nat
import SchemaPress.Proofs.Sql.Statements

/-!
# The order of the statements of a script

A script is its header and then the statements of the tables, of the relationships and of the
indexes. `script_statements` says of each statement what its lines are and where they stand, so none
is lost, none comes twice and none changes its place, and that nothing else stands in the script.

The place of a statement is found by counting the lines before it. `take_drop_flatMap` does that for
any items that are written one behind the other: the lines of an item begin after those of the items
before it.
-/

set_option autoImplicit false

namespace SchemaPress.Sql

/-! ## Items one behind the other -/

/-- The number of lines of the items before one of them. -/
def linesBefore {α : Type} (size : α → Nat) (items : List α) (i : Nat) : Nat :=
  ((items.take i).map size).sum

/-- The lines of an item begin after those of the items before it. -/
theorem take_drop_flatMap {α : Type} {block : α → List String} {size : α → Nat}
    (sized : ∀ item, (block item).length = size item) (before after : List String) {items : List α}
    {i : Nat} {item : α} (at_i : items[i]? = some item) :
    ((before ++ items.flatMap block ++ after).drop (before.length + linesBefore size items i)).take
      (size item) = block item := by
  obtain ⟨bound, rfl⟩ := List.getElem?_eq_some_iff.mp at_i
  have flat : items.flatMap block = (items.take i).flatMap block ++
      (block items[i] ++ (items.drop (i + 1)).flatMap block) := by
    rw [← List.flatMap_cons, ← List.flatMap_append, List.getElem_cons_drop, List.take_append_drop]
  have count : (before ++ (items.take i).flatMap block).length =
      before.length + linesBefore size items i := by
    simp only [List.length_append, List.length_flatMap, sized, linesBefore]
  have lines : before ++ items.flatMap block ++ after =
      (before ++ (items.take i).flatMap block) ++
        (block items[i] ++ ((items.drop (i + 1)).flatMap block ++ after)) := by
    simp only [flat, List.append_assoc]
  rw [lines, ← count, List.drop_left, ← sized, List.take_left]

/-- The items before one of them have no more lines than all items. -/
theorem linesBefore_add_le {α : Type} (size : α → Nat) {items : List α} {i : Nat} {item : α}
    (at_i : items[i]? = some item) :
    linesBefore size items i + size item ≤ (items.map size).sum := by
  obtain ⟨bound, rfl⟩ := List.getElem?_eq_some_iff.mp at_i
  have split : items.map size = (items.take i).map size ++
      (size items[i] :: (items.drop (i + 1)).map size) := by
    rw [← List.map_cons, ← List.map_append, List.getElem_cons_drop, List.take_append_drop]
  rw [split, List.sum_append, List.sum_cons, linesBefore]
  omega

/-- The lines of an item end where those of a later item begin, or before. -/
theorem linesBefore_later {α : Type} (size : α → Nat) {items : List α} {i j : Nat} {item : α}
    (at_i : items[i]? = some item) (later : i < j) :
    linesBefore size items i + size item ≤ linesBefore size items j := by
  have at_i' : (items.take j)[i]? = some item := by rwa [List.getElem?_take_of_lt later]
  have front : linesBefore size (items.take j) i = linesBefore size items i := by
    rw [linesBefore, List.take_take, Nat.min_eq_left (Nat.le_of_lt later), linesBefore]
  rw [← front]
  exact linesBefore_add_le size at_i'

/-- Before an item there are as many lines as items, times their number of lines. -/
theorem linesBefore_const {α : Type} (n : Nat) {items : List α} {i : Nat}
    (bound : i ≤ items.length) :
    linesBefore (fun _ => n) items i = i * n := by
  rw [linesBefore, List.map_const', List.sum_replicate_nat, List.length_take, Nat.min_eq_left bound]

/-! ## The statements of a script -/

/-- The number of lines of the statement that creates a table. -/
def tableSize (table : Table) : Nat :=
  match table.description with
  | none => 4
  | some description => if description = "" then 4 else 5

/-- A table has one line for its description, if it has one, and four lines else. -/
theorem length_tableBlock (dialect : Dialect) (quoted : Bool) (table : Table) :
    (tableBlock dialect quoted table).length = tableSize table := by
  unfold tableBlock tableSize
  cases table.description with
  | none => rfl
  | some description => by_cases empty : description = "" <;> simp [empty]

/-- A foreign key has six lines. -/
theorem length_keyBlock (dialect : Dialect) (quoted : Bool) (relationship : Relationship) :
    (keyBlock dialect quoted relationship).length = 6 :=
  rfl

/-- The indexes of a schema, each with its table. -/
def tableIndexes (schema : Schema) : List (Table × Index) :=
  schema.tables.flatMap fun table => table.indexes.map fun index => (table, index)

/-- The lines about relationships. -/
def keyLines (dialect : Dialect) (quoted : Bool) (schema : Schema) : List String :=
  if schema.relationships = [] then []
  else "-- Foreign Key Constraints" :: schema.relationships.flatMap (keyBlock dialect quoted)

/-- The lines about indexes. -/
def indexLines (dialect : Dialect) (quoted : Bool) (schema : Schema) : List String :=
  if ∀ table ∈ schema.tables, table.indexes = [] then []
  else "-- Indexes" :: (tableIndexes schema).map fun pair => indexLine dialect quoted pair.1 pair.2

/-- There is an index with its table exactly where a table has an index. -/
theorem tableIndexes_eq_nil (schema : Schema) :
    tableIndexes schema = [] ↔ ∀ table ∈ schema.tables, table.indexes = [] := by
  simp [tableIndexes, List.flatMap_eq_nil_iff]

/-- Where there is no relationship there is no line about relationships, and where there is one
there are all of them below a heading. -/
theorem underHeading_keys (style : Style) (schema : Schema) :
    underHeading "-- Foreign Key Constraints"
      (schema.relationships.flatMap (addForeignKey style)) =
      keyLines style.dialect style.quoted schema := by
  unfold underHeading keyLines
  rw [funext (addForeignKey_eq style)]
  cases schema.relationships with
  | nil => rfl
  | cons relationship relationships =>
    simp only [List.flatMap_cons, keyBlock, List.cons_append, List.isEmpty_cons,
      Bool.false_eq_true, if_false, List.cons_ne_nil]

/-- Where no table has an index there is no line about indexes, and where one has there are all of
them below a heading. -/
theorem underHeading_indexes (style : Style) (schema : Schema) :
    underHeading "-- Indexes"
      (schema.tables.flatMap fun table => table.indexes.map (createIndex style table)) =
      indexLines style.dialect style.quoted schema := by
  have lines : (schema.tables.flatMap fun table => table.indexes.map (createIndex style table)) =
      (tableIndexes schema).map fun pair =>
        indexLine style.dialect style.quoted pair.1 pair.2 := by
    simp only [tableIndexes, List.map_flatMap, List.map_map, Function.comp_def,
      ← funext (createIndex_eq style _)]
  unfold underHeading indexLines
  rw [lines, List.isEmpty_map]
  by_cases none : ∀ table ∈ schema.tables, table.indexes = []
  · rw [if_pos none, if_pos (List.isEmpty_iff.mpr ((tableIndexes_eq_nil schema).mpr none))]
  · have some : ¬ (tableIndexes schema).isEmpty := fun empty =>
      none ((tableIndexes_eq_nil schema).mp (List.isEmpty_iff.mp empty))
    rw [if_neg none, if_neg some]

/-- The lines of a script are its header, the blocks of its tables, the lines about relationships
and the lines about indexes. -/
theorem lines_eq (style : Style) (schema : Schema) :
    lines style schema = header style schema
      ++ schema.tables.flatMap (tableBlock style.dialect style.quoted)
      ++ keyLines style.dialect style.quoted schema
      ++ indexLines style.dialect style.quoted schema := by
  unfold lines
  rw [underHeading_keys, underHeading_indexes, funext (createTable_eq style)]

/-! ## The places of the statements -/

/-- The line at which the statement of a table begins. -/
def tablePlace (schema : Schema) (i : Nat) : Nat :=
  4 + linesBefore tableSize schema.tables i

/-- The number of lines before those about relationships. -/
def tablesEnd (schema : Schema) : Nat :=
  4 + (schema.tables.map tableSize).sum

/-- The line at which the statement of a relationship begins. -/
def keyPlace (schema : Schema) (j : Nat) : Nat :=
  tablesEnd schema + 1 + j * 6

/-- The number of lines before those about indexes. -/
def keysEnd (schema : Schema) : Nat :=
  tablesEnd schema
    + if schema.relationships = [] then 0 else 1 + schema.relationships.length * 6

/-- The line at which the statement of an index stands. -/
def indexPlace (schema : Schema) (k : Nat) : Nat :=
  keysEnd schema + 1 + k

/-- The lines before the statements of the relationships end where those of the tables end. -/
theorem length_tables (style : Style) (schema : Schema) :
    (header style schema ++ schema.tables.flatMap (tableBlock style.dialect style.quoted)).length =
      tablesEnd schema := by
  simp only [List.length_append, List.length_flatMap, length_tableBlock, tablesEnd]
  rfl

/-- The lines before the statements of the indexes end where those of the relationships end. -/
theorem length_keys (style : Style) (schema : Schema) :
    (header style schema ++ schema.tables.flatMap (tableBlock style.dialect style.quoted)
      ++ keyLines style.dialect style.quoted schema).length = keysEnd schema := by
  rw [List.length_append, length_tables, keysEnd, keyLines]
  by_cases none : schema.relationships = []
  · rw [if_pos none, if_pos none]
    rfl
  · rw [if_neg none, if_neg none]
    simp only [List.length_cons, List.length_flatMap, length_keyBlock, List.map_const',
      List.sum_replicate_nat]
    omega

/-- The statement of a table stands at its place. -/
theorem table_at (style : Style) {schema : Schema} {i : Nat} {table : Table}
    (at_i : schema.tables[i]? = some table) :
    ((lines style schema).drop (tablePlace schema i)).take (tableSize table) =
      tableBlock style.dialect style.quoted table := by
  rw [lines_eq, List.append_assoc _ (keyLines style.dialect style.quoted schema)]
  exact take_drop_flatMap (length_tableBlock style.dialect style.quoted) (header style schema) _
    at_i

/-- The statement of a relationship stands at its place. -/
theorem key_at (style : Style) {schema : Schema} {j : Nat} {relationship : Relationship}
    (at_j : schema.relationships[j]? = some relationship) :
    ((lines style schema).drop (keyPlace schema j)).take 6 =
      keyBlock style.dialect style.quoted relationship := by
  obtain ⟨bound, -⟩ := List.getElem?_eq_some_iff.mp at_j
  have some : schema.relationships ≠ [] := List.ne_nil_of_length_pos (by omega)
  -- The heading belongs to what stands before the first of these statements.
  have place := take_drop_flatMap (length_keyBlock style.dialect style.quoted)
    (header style schema ++ schema.tables.flatMap (tableBlock style.dialect style.quoted)
      ++ ["-- Foreign Key Constraints"]) (indexLines style.dialect style.quoted schema) at_j
  rw [List.length_append, length_tables, linesBefore_const 6 (by omega)] at place
  rw [lines_eq, keyLines, if_neg some]
  simpa [keyPlace] using place

/-- The statement of an index stands at its place. -/
theorem index_at (style : Style) {schema : Schema} {k : Nat} {table : Table} {index : Index}
    (at_k : (tableIndexes schema)[k]? = some (table, index)) :
    (lines style schema)[indexPlace schema k]? =
      some (indexLine style.dialect style.quoted table index) := by
  obtain ⟨bound, -⟩ := List.getElem?_eq_some_iff.mp at_k
  have some : ¬ ∀ table ∈ schema.tables, table.indexes = [] := by
    intro none
    rw [(tableIndexes_eq_nil schema).mpr none] at bound
    exact absurd bound (Nat.not_lt_zero k)
  have behind : indexPlace schema k - keysEnd schema = k + 1 := by
    unfold indexPlace
    omega
  rw [lines_eq, List.getElem?_append_right (by rw [length_keys]; unfold indexPlace; omega),
    length_keys, behind, indexLines, if_neg some, List.getElem?_cons_succ, List.getElem?_map, at_k]
  rfl

/-- A script has no lines but those of its header, its statements and their headings. -/
theorem length_lines (style : Style) (schema : Schema) :
    (lines style schema).length = keysEnd schema +
      if tableIndexes schema = [] then 0 else 1 + (tableIndexes schema).length := by
  rw [lines_eq, List.length_append, length_keys, indexLines]
  simp only [tableIndexes_eq_nil]
  by_cases none : ∀ table ∈ schema.tables, table.indexes = []
  · rw [if_pos none, if_pos none]
    rfl
  · rw [if_neg none, if_neg none, List.length_cons, List.length_map]
    omega

/-- Says that the statements of a script stand at their places. -/
structure Placed (style : Style) (schema : Schema) : Prop where
  table : ∀ i table, schema.tables[i]? = some table →
    ((lines style schema).drop (tablePlace schema i)).take (tableSize table) =
      tableBlock style.dialect style.quoted table
  key : ∀ j relationship, schema.relationships[j]? = some relationship →
    ((lines style schema).drop (keyPlace schema j)).take 6 =
      keyBlock style.dialect style.quoted relationship
  index : ∀ k table index, (tableIndexes schema)[k]? = some (table, index) →
    (lines style schema)[indexPlace schema k]? =
      some (indexLine style.dialect style.quoted table index)

/-- Says that the places of the statements of a script are in the order of the schema, with all
tables before all relationships and both before all indexes. -/
structure InOrder (schema : Schema) : Prop where
  tables : ∀ i j table, schema.tables[i]? = some table → i < j →
    tablePlace schema i + tableSize table ≤ tablePlace schema j
  tableKey : ∀ i j table, schema.tables[i]? = some table →
    tablePlace schema i + tableSize table ≤ keyPlace schema j
  tableIndex : ∀ i k table, schema.tables[i]? = some table →
    tablePlace schema i + tableSize table ≤ indexPlace schema k
  keys : ∀ i j, i < j → keyPlace schema i + 6 ≤ keyPlace schema j
  keyIndex : ∀ j k, j < schema.relationships.length →
    keyPlace schema j + 6 ≤ indexPlace schema k
  indexes : ∀ i j, i < j → indexPlace schema i < indexPlace schema j

/-- The places of the statements of every script are in order. -/
theorem inOrder (schema : Schema) : InOrder schema := by
  have ends : tablesEnd schema ≤ keysEnd schema := Nat.le_add_right _ _
  have inside {i : Nat} {table : Table} (at_i : schema.tables[i]? = some table) :
      tablePlace schema i + tableSize table ≤ tablesEnd schema := by
    have before := linesBefore_add_le tableSize at_i
    unfold tablePlace tablesEnd
    omega
  refine ⟨fun i j table at_i later => ?_, fun i j table at_i => ?_, fun i k table at_i => ?_,
    fun i j later => ?_, fun j k bound => ?_, fun i j later => ?_⟩
  · have before := linesBefore_later tableSize at_i later
    unfold tablePlace
    omega
  · have before := inside at_i
    unfold keyPlace
    omega
  · have before := inside at_i
    unfold indexPlace
    omega
  · unfold keyPlace
    omega
  · have some : schema.relationships ≠ [] := List.ne_nil_of_length_pos (by omega)
    unfold keyPlace indexPlace keysEnd
    rw [if_neg some]
    omega
  · unfold indexPlace
    omega

/-! ## The script -/

/-- A script is its header, a block for each table that depends on nothing else of the schema, a
statement of six lines for each relationship and a line for each index of each table, all in the
order of the schema, with a heading over the relationships and one over the indexes exactly where
there are any. Each of these statements stands at its place, the places are in order, and the script
has no other lines. -/
theorem script_statements (style : Style) (schema : Schema) :
    script style schema = "\n".intercalate (
      ["-- " ++ (if schema.name = "" then "Database Schema" else schema.name),
        "-- Generated by " ++ style.generator,
        "-- Dialect: " ++ (if style.dialect = .mysql then "MYSQL" else "POSTGRESQL"),
        ""]
      ++ schema.tables.flatMap (tableBlock style.dialect style.quoted)
      ++ (if schema.relationships = [] then []
        else "-- Foreign Key Constraints"
          :: schema.relationships.flatMap (keyBlock style.dialect style.quoted))
      ++ (if ∀ table ∈ schema.tables, table.indexes = [] then []
        else "-- Indexes" :: (tableIndexes schema).map fun pair =>
          indexLine style.dialect style.quoted pair.1 pair.2)) ∧
    Placed style schema ∧ InOrder schema ∧
    (∀ relationship, (keyBlock style.dialect style.quoted relationship).length = 6) ∧
    (lines style schema).length = keysEnd schema +
      if tableIndexes schema = [] then 0 else 1 + (tableIndexes schema).length := by
  refine ⟨?_, ⟨fun _ _ => table_at style, fun _ _ => key_at style, fun _ _ _ => index_at style⟩,
    inOrder schema, length_keyBlock style.dialect style.quoted, length_lines style schema⟩
  have label : style.dialect.label =
      if style.dialect = .mysql then "MYSQL" else "POSTGRESQL" := by
    cases style.dialect <;> rfl
  rw [← label, script, Text.joined_eq_intercalate, lines_eq]
  rfl

end SchemaPress.Sql
