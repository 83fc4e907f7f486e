import SchemaPress.Proofs.RolesByName

/-!
# Which schemas have a Prisma file

A field cannot be padded to a width that is too large, and nothing else stands in the way of a
Prisma file. So a schema has a file under some settings exactly if the width is not too large or no
table has a column (`file?_eq`), and then the file is made of the lines of its columns.
-/

set_option autoImplicit false

namespace SchemaPress.Prisma

/-- The line of a field whose name is padded without regard to the greatest width. -/
def fieldLine (settings : Settings) (column : Column) : String :=
  "  " ++ Text.padRight settings.prisma.fieldWidth column.name ++ " "
    ++ (Field.ofColumn settings.prisma.provider column).text

/-- There is a line for a field exactly if the width is not too large. -/
theorem fieldLine?_eq (settings : Settings) (column : Column) :
    fieldLine? settings column =
      if settings.prisma.fieldWidth ≤ Naming.maxWidth then some (fieldLine settings column)
      else none := by
  unfold fieldLine? Naming.padded?
  split
  · rfl
  · rfl

/-- A traversal that goes on where a condition holds goes through exactly if it holds everywhere. -/
theorem mapM_ite {α β : Type} (p : α → Prop) [DecidablePred p] (f : α → β) (items : List α) :
    items.mapM (fun item => if p item then some (f item) else none) =
      if ∀ item ∈ items, p item then some (items.map f) else none := by
  induction items with
  | nil => simp
  | cons item items ih =>
    rw [List.mapM_cons, ih]
    simp only [List.forall_mem_cons]
    by_cases here : p item
    · by_cases later : ∀ item ∈ items, p item
      · rw [if_pos here, if_pos later, if_pos ⟨here, later⟩]
        rfl
      · have notAll : ¬ (p item ∧ ∀ item ∈ items, p item) := fun all => later all.2
        rw [if_pos here, if_neg later, if_neg notAll]
        rfl
    · have notAll : ¬ (p item ∧ ∀ item ∈ items, p item) := fun all => here all.1
      rw [if_neg here, if_neg notAll]
      rfl

/-- There is a model exactly if the width is not too large or the table has no column. -/
theorem model?_eq (settings : Settings) (table : Table) :
    model? settings table =
      if settings.prisma.fieldWidth ≤ Naming.maxWidth ∨ table.columns = [] then
        some (modelOf (fieldLine settings) table)
      else none := by
  have fields : table.columns.mapM (fieldLine? settings) =
      if ∀ column ∈ table.columns, settings.prisma.fieldWidth ≤ Naming.maxWidth then
        some (table.columns.map (fieldLine settings))
      else none := by
    rw [funext (fieldLine?_eq settings)]
    exact mapM_ite (fun _ => _) (fieldLine settings) table.columns
  have reached : (∀ column ∈ table.columns, settings.prisma.fieldWidth ≤ Naming.maxWidth) ↔
      settings.prisma.fieldWidth ≤ Naming.maxWidth ∨ table.columns = [] := by
    cases table.columns with
    | nil => simp
    | cons column columns =>
      rw [List.forall_mem_cons]
      simpa using fun narrow _ _ => narrow
  rw [model?, fields]
  simp only [reached]
  split
  · rfl
  · rfl

/-- The models of a file, each with its lines. -/
def models (settings : Settings) (schema : Schema) : List (List String) :=
  schema.tables.map (modelOf (fieldLine settings))

/-- There are lines of a file exactly if the width is not too large or no table has a column. -/
theorem lines?_eq (settings : Settings) (schema : Schema) :
    lines? settings schema =
      if settings.prisma.fieldWidth ≤ Naming.maxWidth ∨
          ∀ table ∈ schema.tables, table.columns = [] then
        some (preamble settings ++ (models settings schema).flatten)
      else none := by
  have tables : schema.tables.mapM (model? settings) =
      if ∀ table ∈ schema.tables,
          settings.prisma.fieldWidth ≤ Naming.maxWidth ∨ table.columns = [] then
        some (models settings schema)
      else none := by
    rw [funext (model?_eq settings)]
    exact mapM_ite _ (modelOf (fieldLine settings)) schema.tables
  have reached : (∀ table ∈ schema.tables,
      settings.prisma.fieldWidth ≤ Naming.maxWidth ∨ table.columns = []) ↔
        settings.prisma.fieldWidth ≤ Naming.maxWidth ∨
          ∀ table ∈ schema.tables, table.columns = [] := by
    by_cases narrow : settings.prisma.fieldWidth ≤ Naming.maxWidth
    · simp [narrow]
    · simp [narrow]
  rw [lines?, tables]
  simp only [reached]
  split
  · rfl
  · rfl

end SchemaPress.Prisma
