import Mathlib.Data.List.Forall2
import SchemaPress.Proofs.Schema.Equality

/-!
# Columns take the roles of their names

A column takes a role from its name if it has none, if it has a default that is not empty, and if
its name is exactly that of the role (`Column.Takes`). A schema is settled into another one if the
other is the same but for these roles (`Schema.IsSettled`): table by table and column by column, all
else is equal, and a role that a column has of its own stays.

There is one such schema, and it is the one that is rendered (`Schema.isSettled_iff`). What is
settled takes no further role, so doing it again changes nothing. Names are not touched, so the
first table or column of a name is the same before and after. Nothing keeps names apart, and looking
one up gives the first that has it (`Table.column?_eq_some_iff`, `Schema.table?_eq_some_iff`).
-/

set_option autoImplicit false

namespace SchemaPress

/-- The name of a column that takes a role by convention. -/
def TimestampRole.columnName : TimestampRole → String
  | onCreate => "created_at"
  | onUpdate => "updated_at"

/-- A name gives a role exactly if it is the name of this role. -/
theorem TimestampRole.ofColumnName?_eq_some_iff (name : String) (role : TimestampRole) :
    ofColumnName? name = some role ↔ name = role.columnName := by
  unfold ofColumnName?
  split_ifs with created updated
  · cases role <;> simp [created, columnName]
  · cases role <;> simp [updated, columnName]
  · cases role <;> simp [created, updated, columnName]

/-! ## Columns -/

namespace Column

/-- Says that a column takes a role from its name. -/
structure Takes (column : Column) (role : TimestampRole) : Prop where
  free : column.timestamp = none
  given : ∃ expression, column.default = some expression ∧ expression ≠ ""
  named : column.name = role.columnName

/-- Says that a column is another one with the role that this one has or takes from its name. -/
structure IsSettled (column settled : Column) : Prop where
  same : settled = { column with timestamp := settled.timestamp }
  role : ∀ role, settled.timestamp = some role ↔ column.timestamp = some role ∨ column.Takes role

variable {column : Column}

/-- A default is one if it is not empty. -/
theorem default?_isSome_iff (column : Column) :
    column.default?.isSome = true ↔
      ∃ expression, column.default = some expression ∧ expression ≠ "" := by
  unfold default?
  cases column.default with
  | none => simp
  | some expression => by_cases empty : expression = "" <;> simp [Option.filter, empty]

/-- The role of a column is the one that it has, or else the one that it takes. -/
theorem timestamp_withTimestampByName (column : Column) (role : TimestampRole) :
    column.withTimestampByName.timestamp = some role ↔
      column.timestamp = some role ∨ column.Takes role := by
  have convention : (column.timestamp.isNone && column.default?.isSome) = true ↔
      column.timestamp = none ∧
        ∃ expression, column.default = some expression ∧ expression ≠ "" := by
    rw [Bool.and_eq_true, Option.isNone_iff_eq_none, default?_isSome_iff]
  unfold withTimestampByName
  split_ifs with applies
  · obtain ⟨free, given⟩ := convention.mp applies
    have named := TimestampRole.ofColumnName?_eq_some_iff column.name role
    show TimestampRole.ofColumnName? column.name = some role ↔ _
    rw [named]
    constructor
    · intro name
      exact .inr ⟨free, given, name⟩
    · rintro (own | takes)
      · rw [free] at own
        cases own
      · exact takes.named
  · constructor
    · exact .inl
    · rintro (own | takes)
      · exact own
      · exact absurd (convention.mpr ⟨takes.free, takes.given⟩) applies

/-- Nothing but its role is changed in a column. -/
theorem withTimestampByName_eq (column : Column) :
    column.withTimestampByName =
      { column with timestamp := column.withTimestampByName.timestamp } := by
  unfold withTimestampByName
  split_ifs <;> rfl

/-- There is one settled column. -/
theorem isSettled_iff (column settled : Column) :
    column.IsSettled settled ↔ settled = column.withTimestampByName := by
  constructor
  · intro is
    have role : settled.timestamp = column.withTimestampByName.timestamp := by
      apply Option.ext
      intro role
      rw [is.role, timestamp_withTimestampByName]
    rw [is.same, role, ← withTimestampByName_eq]
  · rintro rfl
    exact ⟨column.withTimestampByName_eq, column.timestamp_withTimestampByName⟩

/-- What has been settled takes nothing, for what it could take it has. -/
theorem not_takes_withTimestampByName (column : Column) (role : TimestampRole) :
    ¬ column.withTimestampByName.Takes role := by
  rintro ⟨free, given, named⟩
  rw [withTimestampByName_eq] at given named
  have none : column.timestamp = none := by
    apply Option.eq_none_iff_forall_ne_some.mpr
    intro own has
    have kept := (column.timestamp_withTimestampByName own).mpr (.inl has)
    rw [free] at kept
    cases kept
  have taken := (column.timestamp_withTimestampByName role).mpr (.inr ⟨none, given, named⟩)
  rw [free] at taken
  cases taken

/-- A column stays what it is exactly if it takes no role. -/
theorem withTimestampByName_eq_self_iff (column : Column) :
    column.withTimestampByName = column ↔ ∀ role, ¬ column.Takes role := by
  rw [eq_comm, ← isSettled_iff]
  constructor
  · intro is role takes
    have own := (is.role role).mpr (.inr takes)
    rw [takes.free] at own
    cases own
  · intro takesNone
    refine ⟨rfl, fun role => ?_⟩
    simp [takesNone role]

end Column

/-! ## Tables and schemas -/

/-- A relation that is the graph of a function relates a list to the list of images. -/
theorem forall₂_iff_eq_map {α β : Type} {related : α → β → Prop} {f : α → β}
    (graph : ∀ x y, related x y ↔ y = f x) (xs : List α) (ys : List β) :
    List.Forall₂ related xs ys ↔ ys = xs.map f := by
  have flipped : related = fun x y => f x = y := by
    funext x y
    rw [graph]
    exact propext eq_comm
  rw [flipped, ← List.forall₂_map_left_iff, List.forall₂_eq_eq_eq, eq_comm]

/-- A list is its own image exactly if each item is. -/
theorem map_eq_self_iff {α : Type} (f : α → α) (items : List α) :
    items.map f = items ↔ ∀ item ∈ items, f item = item := by
  conv_lhs => rhs; rw [← List.map_id items]
  exact List.map_eq_map_iff

/-- Says that an item is the first one of a name among some items. -/
def IsFirstNamed {α : Type} (nameOf : α → String) (items : List α) (name : String) (item : α) :
    Prop :=
  ∃ before after, items = before ++ item :: after ∧ nameOf item = name ∧
    ∀ earlier ∈ before, nameOf earlier ≠ name

/-- Looking up a name gives the first item that has it. -/
theorem find?_named_eq_some_iff {α : Type} {nameOf : α → String} {items : List α} {name : String}
    {item : α} :
    items.find? (nameOf · == name) = some item ↔ IsFirstNamed nameOf items name item := by
  rw [List.find?_eq_some_iff_append]
  constructor
  · rintro ⟨named, before, after, split, others⟩
    refine ⟨before, after, split, beq_iff_eq.mp named, fun earlier member same => ?_⟩
    simpa [same] using others earlier member
  · rintro ⟨before, after, split, named, others⟩
    refine ⟨beq_iff_eq.mpr named, before, after, split, fun earlier member => ?_⟩
    simpa using others earlier member

namespace Table

/-- The column found under a name is the first one of this name. -/
theorem column?_eq_some_iff (table : Table) (name : String) (column : Column) :
    table.column? name = some column ↔
      IsFirstNamed Column.name table.columns name column :=
  find?_named_eq_some_iff

/-- Says that a table is another one with its columns settled. -/
structure IsSettled (table settled : Table) : Prop where
  same : settled = { table with columns := settled.columns }
  columns : List.Forall₂ Column.IsSettled table.columns settled.columns

/-- There is one settled table. -/
theorem isSettled_iff (table settled : Table) :
    table.IsSettled settled ↔ settled = table.withTimestampsByName := by
  have columns := forall₂_iff_eq_map Column.isSettled_iff table.columns
  constructor
  · intro is
    rw [is.same, (columns _).mp is.columns, withTimestampsByName]
  · rintro rfl
    exact ⟨rfl, (columns _).mpr rfl⟩

/-- A table stays what it is exactly if none of its columns takes a role. -/
theorem withTimestampsByName_eq_self_iff (table : Table) :
    table.withTimestampsByName = table ↔
      ∀ column ∈ table.columns, ∀ role, ¬ column.Takes role := by
  have columns : table.withTimestampsByName = table ↔
      table.columns.map Column.withTimestampByName = table.columns := by
    cases table
    simp [withTimestampsByName]
  rw [columns, map_eq_self_iff]
  simp only [Column.withTimestampByName_eq_self_iff]

/-- The first column of a name is found before and after. -/
theorem column?_withTimestampsByName (table : Table) (name : String) :
    table.withTimestampsByName.column? name =
      (table.column? name).map Column.withTimestampByName := by
  have names : (fun column : Column => column.name == name) ∘ Column.withTimestampByName =
      fun column => column.name == name := by
    funext column
    rw [Function.comp_apply, column.withTimestampByName_eq]
  rw [column?, withTimestampsByName, List.find?_map, names, column?]

end Table

namespace Schema

/-- The table found under a name is the first one of this name. -/
theorem table?_eq_some_iff (schema : Schema) (name : String) (table : Table) :
    schema.table? name = some table ↔
      IsFirstNamed Table.name schema.tables name table :=
  find?_named_eq_some_iff

/-- Says that a schema is another one with the columns of its tables settled. -/
structure IsSettled (schema settled : Schema) : Prop where
  same : settled = { schema with tables := settled.tables }
  tables : List.Forall₂ Table.IsSettled schema.tables settled.tables

/-- There is one settled schema. -/
theorem isSettled_iff (schema settled : Schema) :
    schema.IsSettled settled ↔ settled = schema.withTimestampsByName := by
  have tables := forall₂_iff_eq_map Table.isSettled_iff schema.tables
  constructor
  · intro is
    rw [is.same, (tables _).mp is.tables, withTimestampsByName]
  · rintro rfl
    exact ⟨rfl, (tables _).mpr rfl⟩

/-- Says that some column of a schema takes a role. -/
def TakesRoles (schema : Schema) : Prop :=
  ∃ table ∈ schema.tables, ∃ column ∈ table.columns, ∃ role, column.Takes role

/-- A schema stays what it is exactly if no column of it takes a role. -/
theorem withTimestampsByName_eq_self_iff (schema : Schema) :
    schema.withTimestampsByName = schema ↔ ¬ schema.TakesRoles := by
  have tables : schema.withTimestampsByName = schema ↔
      schema.tables.map Table.withTimestampsByName = schema.tables := by
    cases schema
    simp [withTimestampsByName]
  rw [tables, map_eq_self_iff]
  simp only [Table.withTimestampsByName_eq_self_iff, TakesRoles, not_exists, not_and]

/-- In a settled schema no column takes a role. -/
theorem not_takesRoles_withTimestampsByName (schema : Schema) :
    ¬ schema.withTimestampsByName.TakesRoles := by
  rintro ⟨table, inSchema, column, inTable, role, takes⟩
  obtain ⟨table, -, rfl⟩ := List.mem_map.mp inSchema
  obtain ⟨column, -, rfl⟩ := List.mem_map.mp inTable
  exact column.not_takes_withTimestampByName role takes

/-- Relationships stay what they are, so equality of schemas sees the same change. -/
theorem withTimestampsByName_beq_iff (schema : Schema) :
    (schema.withTimestampsByName == schema) = true ↔ schema.withTimestampsByName = schema := by
  rw [beq_iff_normal]
  constructor
  · intro same
    have tables : schema.tables.map Table.withTimestampsByName = schema.tables :=
      congrArg (fun schema : Schema => schema.tables) same
    rw [withTimestampsByName, tables]
  · intro same
    rw [same]

/-- The first table of a name is found before and after. -/
theorem table?_withTimestampsByName (schema : Schema) (name : String) :
    schema.withTimestampsByName.table? name =
      (schema.table? name).map Table.withTimestampsByName := by
  rw [table?, withTimestampsByName, List.find?_map]
  rfl

/-- Giving columns the roles of their names settles a schema, and there is no other settled schema.
It changes nothing when done again, it changes a schema exactly if some column takes a role, and it
goes with looking up a table and a column by name, which gives the first one of this name. -/
theorem roles_settled (schema : Schema) :
    (∀ settled, schema.IsSettled settled ↔ settled = schema.withTimestampsByName) ∧
    schema.withTimestampsByName.withTimestampsByName = schema.withTimestampsByName ∧
    (schema.withTimestampsByName ≠ schema ↔
      ∃ table ∈ schema.tables, ∃ column ∈ table.columns, ∃ role, column.Takes role) ∧
    ((schema.withTimestampsByName == schema) = false ↔
      ∃ table ∈ schema.tables, ∃ column ∈ table.columns, ∃ role, column.Takes role) ∧
    (∀ name table, schema.table? name = some table ↔
      IsFirstNamed Table.name schema.tables name table) ∧
    (∀ (table : Table) name column, table.column? name = some column ↔
      IsFirstNamed Column.name table.columns name column) ∧
    ∀ table,
      schema.withTimestampsByName.table? table =
        (schema.table? table).map Table.withTimestampsByName ∧
      ∀ column, (schema.withTimestampsByName.table? table).bind (·.column? column) =
        ((schema.table? table).bind (·.column? column)).map Column.withTimestampByName := by
  have again := schema.withTimestampsByName.withTimestampsByName_eq_self_iff.mpr
    schema.not_takesRoles_withTimestampsByName
  have changed : schema.withTimestampsByName ≠ schema ↔ schema.TakesRoles := by
    rw [ne_eq, withTimestampsByName_eq_self_iff, not_not]
  refine ⟨schema.isSettled_iff, again, changed, ?_, schema.table?_eq_some_iff,
    Table.column?_eq_some_iff, fun table => ⟨?_, fun column => ?_⟩⟩
  · rw [← Bool.not_eq_true, withTimestampsByName_beq_iff]
    exact changed
  · exact schema.table?_withTimestampsByName table
  · rw [table?_withTimestampsByName]
    cases schema.table? table with
    | none => rfl
    | some first => exact first.column?_withTimestampsByName column

/-- Of two tables with one name and of two columns with one name, the first are looked up, before
and after their columns take the roles of their names. -/
theorem roles_settled_namesakes :
    let created : Column := { name := "created_at", type := ⟨"DATE"⟩, default := some "NOW()" }
    let again : Column := { name := "created_at", type := ⟨"TEXT"⟩ }
    let users : Table := { name := "users", columns := [created, again] }
    let shop : Schema := { name := "shop", tables := [users, { name := "users", columns := [] }] }
    let settled := shop.withTimestampsByName
    settled ≠ shop ∧
    settled.table? "users" = some { users with
      columns := [{ created with timestamp := some .onCreate }, again] } ∧
    (settled.table? "users").bind (·.column? "created_at") =
      some { created with timestamp := some .onCreate } := by
  intro created again users shop settled
  obtain ⟨-, -, changed, -, -, -, lookup⟩ := roles_settled shop
  have takes : created.Takes .onCreate := ⟨rfl, ⟨"NOW()", rfl, by decide⟩, rfl⟩
  have inSchema : users ∈ shop.tables := List.mem_cons_self
  have inTable : created ∈ users.columns := List.mem_cons_self
  refine ⟨changed.mpr ⟨users, inSchema, created, inTable, .onCreate, takes⟩, ?_, ?_⟩
  · rw [(lookup "users").1]
    rfl
  · rw [(lookup "users").2 "created_at"]
    rfl

end Schema

end SchemaPress
