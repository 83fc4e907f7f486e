import SchemaPress.Proofs.Schema.Rows

/-!
# Schemas with records and lists

Every record of a schema, whatever its kind and however deep it stands, may be written with the
names of its fields or as the list of its values, and each record may choose for itself. All such
forms hold the same schema. A list may end early, and then it holds its record with standard values
behind the end, but it must not end before a field that is required, and nothing may follow its last
value (`ofJson_arranged`).

`Manner` is the choice for one record and an `Arrangement` the choice for each record in a whole.
The form and the result of a whole are made from those of its parts, and so is the proof that one is
read as the other (`read_form`).
-/

set_option autoImplicit false

namespace SchemaPress

open Document Json

/-- How a record is written. -/
inductive Manner where
  /-- With the names of its fields. -/
  | named
  /-- As the list of all its values. -/
  | listed
  /-- As the list of its first values. -/
  | cut (kept : Nat)
  /-- As the list of all its values with others behind them. -/
  | overlong (surplus : Written) (more : List Written)

namespace Manner

/-- The form of a record that can be written as a record and as a list. -/
def form (record : Written) (row : List Written) : Manner → Written
  | named => record
  | listed => .list row
  | cut kept => .list (row.take kept)
  | overlong surplus more => .list (row ++ surplus :: more)

/-- What the form of a record holds, given what it holds with its first values only. -/
def result {α : Type} (part : Part) (keeping : Nat → Option α) : Manner → Option α
  | named => keeping part.width
  | listed => keeping part.width
  | cut kept => if part.least ≤ kept then keeping kept else none
  | overlong _ _ => none

/-- The number of fields of a record that have a value in its form. -/
def kept (part : Part) : Manner → Nat
  | cut kept => kept
  | _ => part.width

/-- Says that a record lacks a field that it must have, or has a value too many. -/
def IsRefused (part : Part) : Manner → Prop
  | named => False
  | listed => False
  | cut kept => kept < part.least
  | overlong _ _ => True

/-- Says that all values of a record are written and nothing else. -/
def IsWhole : Manner → Prop
  | named => True
  | listed => True
  | cut _ => False
  | overlong _ _ => False

/-- A record whose values are all written is held with all of them. -/
theorem result_of_isWhole {α : Type} {part : Part} {keeping : Nat → Option α} {manner : Manner}
    (whole : manner.IsWhole) : manner.result part keeping = keeping part.width := by
  cases manner with
  | named | listed => rfl
  | cut | overlong => exact whole.elim

/-- A form holds nothing if it is refused or if nothing is held with the values that it keeps. -/
theorem result_eq_none_iff {α : Type} {part : Part} {keeping : Nat → Option α} {manner : Manner} :
    manner.result part keeping = none ↔
      manner.IsRefused part ∨ keeping (manner.kept part) = none := by
  cases manner with
  | named | listed | overlong => simp [result, IsRefused, kept]
  | cut kept =>
    by_cases enough : part.least ≤ kept
    · simp [result, IsRefused, Manner.kept, enough]
    · simp [result, IsRefused, enough, Nat.lt_of_not_le enough]

/-- What is held may be changed before or after. -/
theorem result_map {α β : Type} {part : Part} (change : α → β) (keeping : Nat → Option α)
    (manner : Manner) : manner.result part (fun kept => (keeping kept).map change) =
      (manner.result part keeping).map change := by
  cases manner with
  | named | listed | overlong => rfl
  | cut kept =>
    simp only [result]
    split <;> rfl

/-- A record in any manner is read as what its form holds, if that is so for its record and for its
list with standard values in place of those that are cut off. -/
theorem read_form {part : Part} {record : Written} {row : List Written}
    {keeping : Nat → Option part.Value} (full : row.length = part.width)
    (ofRecord : part.read record = keeping part.width)
    (ofRow : ∀ kept, part.least ≤ kept →
      part.read (.list (row.take kept ++ part.fillers.drop (kept - part.least))) = keeping kept)
    (manner : Manner) : part.read (manner.form record row) = manner.result part keeping := by
  cases manner with
  | named => exact ofRecord
  | listed =>
    have enough : part.least ≤ part.width := by
      have sum := part.least_add_length_fillers
      omega
    have whole := (Part.read_take full enough).trans (ofRow part.width enough)
    rwa [List.take_of_length_le full.le] at whole
  | cut kept =>
    simp only [form, result]
    split
    · rename_i enough
      exact (Part.read_take full enough).trans (ofRow kept enough)
    · rename_i short
      exact Part.read_take_short full (by omega)
  | overlong surplus more => exact Part.read_overlong full surplus more

end Manner

/-! ## Lists of forms -/

section

variable {α β γ : Type} {form : Nat → α → β} {read : β → Option γ}

/-- A list of forms is read as the list of what they hold. -/
theorem mapM_mapIdx {result : Nat → α → Option γ} (reads : ∀ i x, read (form i x) = result i x)
    (values : List α) : (values.mapIdx form).mapM read = (values.mapIdx result).mapM id := by
  induction values generalizing form result with
  | nil => rfl
  | cons value values ih =>
    rw [List.mapIdx_cons, List.mapIdx_cons, List.mapM_cons, List.mapM_cons, reads,
      ih fun i => reads (i + 1)]
    rfl

/-- Results that are changed one by one are changed as a list. -/
theorem mapM_mapIdx_map {result : Nat → α → Option β} (change : β → γ) (values : List α) :
    (values.mapIdx fun i value => (result i value).map change).mapM id =
      ((values.mapIdx result).mapM id).map (List.map change) := by
  induction values generalizing result with
  | nil => rfl
  | cons value values ih =>
    rw [List.mapIdx_cons, List.mapIdx_cons, List.mapM_cons, List.mapM_cons,
      @ih fun i => result (i + 1)]
    cases result 0 value <;>
      cases (values.mapIdx fun i => result (i + 1)).mapM id <;> rfl

/-- A list of results lacks one if any of them is missing. -/
theorem mapM_mapIdx_eq_none_iff {result : Nat → α → Option β} {values : List α} :
    (values.mapIdx result).mapM id = none ↔
      ∃ i value, values[i]? = some value ∧ result i value = none := by
  induction values generalizing result with
  | nil => simp
  | cons value values ih =>
    have first : (List.mapIdx result (value :: values)).mapM id = none ↔
        result 0 value = none ∨ (values.mapIdx fun i => result (i + 1)).mapM id = none := by
      rw [List.mapIdx_cons, List.mapM_cons]
      cases result 0 value <;>
        cases (values.mapIdx fun i => result (i + 1)).mapM id <;> simp
    rw [first, ih]
    constructor
    · rintro (none | ⟨i, other, here, none⟩)
      · exact ⟨0, value, rfl, none⟩
      · exact ⟨i + 1, other, here, none⟩
    · rintro ⟨i, other, here, none⟩
      cases i with
      | zero =>
        obtain rfl := Option.some.inj here
        exact .inl none
      | succ i => exact .inr ⟨i, other, here, none⟩

/-- A change that does not depend on the place is one for the whole list. -/
theorem mapIdx_const (change : α → β) (values : List α) :
    values.mapIdx (fun _ => change) = values.map change :=
  List.mapIdx_eq_iff.mpr fun _ => List.getElem?_map

/-- Where each value results in itself, so does the list. -/
theorem mapM_mapIdx_self {result : Nat → α → Option α} (same : ∀ i x, result i x = some x)
    (values : List α) : (values.mapIdx result).mapM id = some values := by
  induction values generalizing result with
  | nil => rfl
  | cons value values ih =>
    rw [List.mapIdx_cons, List.mapM_cons, same, ih fun i => same (i + 1)]
    rfl

end

/-! ## Columns, indexes and relationships -/

namespace Column

/-- The form of a column in a manner. -/
def form (column : Column) (manner : Manner) : Written :=
  manner.form column.toJson.written column.row

/-- The column that its form holds. -/
def result (column : Column) (manner : Manner) : Option Column :=
  manner.result .column fun kept => some (column.keeping kept)

/-- A column is held unless its form is refused. -/
theorem result_eq_none_iff (column : Column) (manner : Manner) :
    column.result manner = none ↔ manner.IsRefused .column := by
  simp [result, Manner.result_eq_none_iff]

/-- A column in any manner is read as what its form holds. -/
theorem read_form (column : Column) (manner : Manner) :
    Column.read (column.form manner) = column.result manner := by
  have full : column.row.length = Part.column.width := rfl
  have ofRecord : Part.column.read column.toJson.written =
      some (column.keeping Part.column.width) := column.read_toJson
  refine Manner.read_form full ofRecord (fun kept enough => ?_) manner
  rw [row_take column enough]
  exact read_row _

end Column

namespace Index

/-- The form of an index in a manner. -/
def form (index : Index) (manner : Manner) : Written :=
  manner.form index.toJson.written index.row

/-- The index that its form holds. -/
def result (index : Index) (manner : Manner) : Option Index :=
  manner.result .index fun kept => some (index.keeping kept)

/-- An index is held unless its form is refused. -/
theorem result_eq_none_iff (index : Index) (manner : Manner) :
    index.result manner = none ↔ manner.IsRefused .index := by
  simp [result, Manner.result_eq_none_iff]

/-- So is an index. -/
theorem read_form (index : Index) (manner : Manner) :
    Index.read (index.form manner) = index.result manner := by
  have full : index.row.length = Part.index.width := rfl
  have ofRecord : Part.index.read index.toJson.written = some (index.keeping Part.index.width) :=
    index.read_toJson
  refine Manner.read_form full ofRecord (fun kept enough => ?_) manner
  rw [row_take index enough]
  exact read_row _

end Index

namespace Relationship

/-- The form of a relationship in a manner. -/
def form (relationship : Relationship) (manner : Manner) : Written :=
  manner.form relationship.toJson.written relationship.row

/-- The relationship that its form holds. -/
def result (relationship : Relationship) (manner : Manner) : Option Relationship :=
  manner.result .relationship fun kept => some (relationship.keeping kept)

/-- A relationship is held unless its form is refused. -/
theorem result_eq_none_iff (relationship : Relationship) (manner : Manner) :
    relationship.result manner = none ↔ manner.IsRefused .relationship := by
  simp [result, Manner.result_eq_none_iff]

/-- So is a relationship, with its action and its cardinality in their normal form. -/
theorem read_form (relationship : Relationship) (manner : Manner) :
    Relationship.read (relationship.form manner) =
      (relationship.result manner).map Relationship.normal := by
  have full : relationship.row.length = Part.relationship.width := rfl
  rw [result, ← Manner.result_map]
  have ofRecord : Part.relationship.read relationship.toJson.written =
      (some (relationship.keeping Part.relationship.width)).map Relationship.normal :=
    relationship.read_toJson
  refine Manner.read_form full ofRecord (fun kept enough => ?_) manner
  rw [row_take relationship enough]
  exact read_row _

end Relationship

/-! ## Tables -/

namespace Table

/-- How a table and the records in it are written. -/
structure Arrangement where
  own : Manner
  column : Nat → Manner
  index : Nat → Manner

namespace Arrangement

/-- All records are written with the names of their fields. -/
def named : Arrangement := ⟨.named, fun _ => .named, fun _ => .named⟩

/-- Says that nothing is cut off and nothing too much. -/
structure IsWhole (arrangement : Arrangement) : Prop where
  own : arrangement.own.IsWhole
  column : ∀ i, (arrangement.column i).IsWhole
  index : ∀ i, (arrangement.index i).IsWhole

end Arrangement

variable (table : Table) (arrangement : Arrangement)

/-- The forms of the columns of a table. -/
def columnForms : List Written :=
  table.columns.mapIdx fun i column => column.form (arrangement.column i)

/-- The forms of the indexes of a table. -/
def indexForms : List Written :=
  table.indexes.mapIdx fun i index => index.form (arrangement.index i)

/-- The columns that their forms hold, if they all hold one. -/
def columnResults : Option (List Column) :=
  (table.columns.mapIdx fun i column => column.result (arrangement.column i)).mapM id

/-- The indexes that their forms hold, if they all hold one. -/
def indexResults : Option (List Index) :=
  (table.indexes.mapIdx fun i index => index.result (arrangement.index i)).mapM id

/-- The form of a table in an arrangement of its parts. -/
def form : Written :=
  arrangement.own.form
    (table.record (table.columnForms arrangement) (table.indexForms arrangement))
    (table.row (table.columnForms arrangement) (table.indexForms arrangement))

/-- What a table with its first values only holds. -/
def keeping (kept : Nat) : Option Table :=
  table.holding (table.columnResults arrangement)
    (if 3 < kept then table.indexResults arrangement else some [])

/-- The table that its form holds. -/
def result : Option Table :=
  arrangement.own.result .table (table.keeping arrangement)

/-- Says that a table or a record in it is refused. Where the indexes are cut off it does not matter
how they are written. -/
def IsRefused : Prop :=
  arrangement.own.IsRefused .table ∨
  (∃ i column, table.columns[i]? = some column ∧ (arrangement.column i).IsRefused .column) ∨
  3 < arrangement.own.kept .table ∧
    ∃ i index, table.indexes[i]? = some index ∧ (arrangement.index i).IsRefused .index

/-- A table is held with its columns and its indexes, or not at all. -/
theorem holding_eq_none_iff {columns : Option (List Column)} {indexes : Option (List Index)} :
    table.holding columns indexes = none ↔ columns = none ∨ indexes = none := by
  cases columns <;> cases indexes <;> simp [holding]

/-- A table is held unless its form is refused or that of one of its parts. -/
theorem result_eq_none_iff :
    table.result arrangement = none ↔ table.IsRefused arrangement := by
  have columns : table.columnResults arrangement = none ↔
      ∃ i column, table.columns[i]? = some column ∧
        (arrangement.column i).IsRefused .column := by
    simp only [columnResults, mapM_mapIdx_eq_none_iff, Column.result_eq_none_iff]
  have indexes : table.indexResults arrangement = none ↔
      ∃ i index, table.indexes[i]? = some index ∧ (arrangement.index i).IsRefused .index := by
    simp only [indexResults, mapM_mapIdx_eq_none_iff, Index.result_eq_none_iff]
  rw [result, Manner.result_eq_none_iff, keeping, holding_eq_none_iff, IsRefused, columns,
    ← indexes]
  by_cases visible : 3 < arrangement.own.kept .table <;> simp [visible]

/-- A table in any arrangement is read as what its form holds. -/
theorem read_form : Table.read (table.form arrangement) = table.result arrangement := by
  have columns : (table.columnForms arrangement).mapM Column.read =
      table.columnResults arrangement :=
    mapM_mapIdx (fun i column => column.read_form (arrangement.column i)) table.columns
  have indexes : (table.indexForms arrangement).mapM Index.read =
      table.indexResults arrangement :=
    mapM_mapIdx (fun i index => index.read_form (arrangement.index i)) table.indexes
  have full : (table.row (table.columnForms arrangement) (table.indexForms arrangement)).length =
      Part.table.width := rfl
  refine Manner.read_form full ?_ (fun kept enough => ?_) arrangement.own
  · refine (table.read_record _ _).trans ?_
    rw [columns, indexes]
    rfl
  · rw [row_take _ _ _ enough]
    refine (table.read_row _ _).trans ?_
    rw [columns, keeping]
    by_cases visible : 3 < kept
    · rw [if_pos visible, if_pos visible, indexes]
    · rw [if_neg visible, if_neg visible]
      rfl

/-- A table whose values are all written is held as it is. -/
theorem result_of_isWhole (whole : arrangement.IsWhole) :
    table.result arrangement = some table := by
  have columns : table.columnResults arrangement = some table.columns :=
    mapM_mapIdx_self (fun i column => (Manner.result_of_isWhole (whole.column i))) table.columns
  have indexes : table.indexResults arrangement = some table.indexes :=
    mapM_mapIdx_self (fun i index => (Manner.result_of_isWhole (whole.index i))) table.indexes
  rw [result, Manner.result_of_isWhole whole.own, keeping, columns, indexes]
  rfl

/-- A table whose parts all have the names of their fields is written as it always is. -/
theorem form_named : table.form .named = table.toJson.written := by
  rw [written_toJson, ← mapIdx_const, ← mapIdx_const]
  rfl

end Table

/-! ## Schemas -/

namespace Schema

/-- How a schema and the records in it are written. -/
structure Arrangement where
  own : Manner
  table : Nat → Table.Arrangement
  relationship : Nat → Manner

namespace Arrangement

/-- All records are written with the names of their fields. -/
def named : Arrangement := ⟨.named, fun _ => .named, fun _ => .named⟩

/-- Says that nothing is cut off and nothing too much. -/
structure IsWhole (arrangement : Arrangement) : Prop where
  own : arrangement.own.IsWhole
  table : ∀ i, (arrangement.table i).IsWhole
  relationship : ∀ i, (arrangement.relationship i).IsWhole

end Arrangement

section

variable (schema : Schema) (arrangement : Arrangement)

/-- The forms of the tables of a schema. -/
def tableForms : List Written :=
  schema.tables.mapIdx fun i table => table.form (arrangement.table i)

/-- The forms of the relationships of a schema. -/
def relationshipForms : List Written :=
  schema.relationships.mapIdx fun i relationship =>
    relationship.form (arrangement.relationship i)

/-- The tables that their forms hold, if they all hold one. -/
def tableResults : Option (List Table) :=
  (schema.tables.mapIdx fun i table => table.result (arrangement.table i)).mapM id

/-- The relationships that their forms hold, if they all hold one. -/
def relationshipResults : Option (List Relationship) :=
  (schema.relationships.mapIdx fun i relationship =>
    relationship.result (arrangement.relationship i)).mapM id

/-- The form of a schema in an arrangement of its parts. -/
def form : Written :=
  arrangement.own.form
    (schema.record (schema.tableForms arrangement) (schema.relationshipForms arrangement))
    (schema.row (schema.tableForms arrangement) (schema.relationshipForms arrangement))

/-- What a schema with its first values only holds. -/
def keeping (kept : Nat) : Option Schema :=
  { schema with suggestions := if 4 < kept then schema.suggestions else [] }.holding
    (schema.tableResults arrangement)
    (if 3 < kept then schema.relationshipResults arrangement else some [])

/-- The schema that its form holds. -/
def result : Option Schema :=
  arrangement.own.result .schema (schema.keeping arrangement)

/-- Says that a schema or a record in it is refused. Where the relationships are cut off it does not
matter how they are written. -/
def IsRefused : Prop :=
  arrangement.own.IsRefused .schema ∨
  (∃ i table, schema.tables[i]? = some table ∧ Table.IsRefused table (arrangement.table i)) ∨
  3 < arrangement.own.kept .schema ∧
    ∃ i relationship, schema.relationships[i]? = some relationship ∧
      (arrangement.relationship i).IsRefused .relationship

/-- A schema is held with its tables and its relationships, or not at all. -/
theorem holding_eq_none_iff {tables : Option (List Table)}
    {relationships : Option (List Relationship)} :
    schema.holding tables relationships = none ↔ tables = none ∨ relationships = none := by
  cases tables <;> cases relationships <;> simp [holding]

/-- A schema is held unless its form is refused or that of one of its parts. -/
theorem result_eq_none_iff :
    schema.result arrangement = none ↔ schema.IsRefused arrangement := by
  have tables : schema.tableResults arrangement = none ↔
      ∃ i table, schema.tables[i]? = some table ∧ Table.IsRefused table (arrangement.table i) := by
    simp only [tableResults, mapM_mapIdx_eq_none_iff, Table.result_eq_none_iff]
  have relationships : schema.relationshipResults arrangement = none ↔
      ∃ i relationship, schema.relationships[i]? = some relationship ∧
        (arrangement.relationship i).IsRefused .relationship := by
    simp only [relationshipResults, mapM_mapIdx_eq_none_iff, Relationship.result_eq_none_iff]
  rw [result, Manner.result_eq_none_iff, keeping, holding_eq_none_iff, IsRefused, tables,
    ← relationships]
  by_cases visible : 3 < arrangement.own.kept .schema <;> simp [visible]

/-- What is held of relationships in their normal form is the normal form of what is held. -/
theorem holding_normal (tables : Option (List Table)) (relationships : Option (List Relationship)) :
    schema.holding tables (relationships.map (List.map Relationship.normal)) =
      (schema.holding tables relationships).map normal := by
  cases tables <;> cases relationships <;> rfl

/-- A schema in any arrangement is read as what its form holds, in its normal form. -/
theorem read_form :
    Schema.read (schema.form arrangement) = (schema.result arrangement).map normal := by
  have tables : (schema.tableForms arrangement).mapM Table.read =
      schema.tableResults arrangement :=
    mapM_mapIdx (fun i table => table.read_form (arrangement.table i)) schema.tables
  have relationships : (schema.relationshipForms arrangement).mapM Relationship.read =
      (schema.relationshipResults arrangement).map (List.map Relationship.normal) :=
    (mapM_mapIdx (fun i link => link.read_form (arrangement.relationship i))
      schema.relationships).trans (mapM_mapIdx_map _ _)
  have full : (schema.row (schema.tableForms arrangement)
      (schema.relationshipForms arrangement)).length = Part.schema.width := rfl
  rw [result, ← Manner.result_map]
  refine Manner.read_form full ?_ (fun kept enough => ?_) arrangement.own
  · refine (schema.read_record _ _).trans ?_
    rw [tables, relationships, holding_normal]
    rfl
  · rw [row_take _ _ _ enough]
    refine (Schema.read_row _ _ _).trans ?_
    rw [tables, keeping, ← holding_normal]
    by_cases visible : 3 < kept
    · rw [if_pos visible, if_pos visible, relationships]
    · rw [if_neg visible, if_neg visible]
      rfl

/-- A schema whose values are all written is held as it is. -/
theorem result_of_isWhole (whole : arrangement.IsWhole) :
    schema.result arrangement = some schema := by
  have tables : schema.tableResults arrangement = some schema.tables :=
    mapM_mapIdx_self (fun i table => table.result_of_isWhole _ (whole.table i)) schema.tables
  have relationships : schema.relationshipResults arrangement = some schema.relationships :=
    mapM_mapIdx_self (fun i relationship => (Manner.result_of_isWhole (whole.relationship i)))
      schema.relationships
  rw [result, Manner.result_of_isWhole whole.own, keeping, tables, relationships]
  rfl

/-- So is a schema. -/
theorem form_named : schema.form .named = schema.toJson.written := by
  have tables : schema.tableForms .named = schema.tables.map fun table => table.toJson.written :=
    (congrArg (List.mapIdx · schema.tables) (funext fun _ => funext Table.form_named)).trans
      (mapIdx_const _ _)
  rw [written_toJson, ← tables, ← mapIdx_const]
  rfl

end

/-- A schema may be written with any of its records as lists. The canonical form has none. A text in
which the schema is so written holds it if nothing is cut off. Where something is, the text holds
the schema with standard values in its place, unless one of the records that are read is refused;
then it holds none. -/
theorem ofJson_arranged (schema : Schema) :
    schema.form .named = schema.toJson.written ∧
    ∀ (arrangement : Arrangement) (text : String),
      Laid (schema.form arrangement).lexemes text.toList →
      (arrangement.IsWhole → ∃ read, ofJson text = .ok read ∧ (read == schema) = true) ∧
      (¬ schema.IsRefused arrangement → ∃ held read, schema.result arrangement = some held ∧
        ofJson text = .ok read ∧ (read == held) = true) ∧
      (schema.IsRefused arrangement → ∃ fault, ofJson text = .error fault) := by
  refine ⟨schema.form_named, fun arrangement text laid => ?_⟩
  have read : (ofJson text).toOption = (schema.result arrangement).map normal :=
    (ofJson_laid laid).trans (schema.read_form arrangement)
  have holds {held : Schema} (result : schema.result arrangement = some held) :
      ∃ read, ofJson text = .ok read ∧ (read == held) = true := by
    rw [result] at read
    exact ⟨held.normal, eq_ok_of_toOption read, held.normal_beq⟩
  refine ⟨fun whole => holds (schema.result_of_isWhole arrangement whole), fun accepted => ?_,
    fun refused => ?_⟩
  · cases result : schema.result arrangement with
    | none => exact absurd ((schema.result_eq_none_iff arrangement).mp result) accepted
    | some held =>
      obtain ⟨read, ok, same⟩ := holds result
      exact ⟨held, read, rfl, ok, same⟩
  · rw [(schema.result_eq_none_iff arrangement).mpr refused] at read
    cases result : ofJson text with
    | error fault => exact ⟨fault, rfl⟩
    | ok value =>
      rw [result] at read
      cases read

/-- Lists within lists, with nothing written that has its standard value, and the list of a column
without its type. -/
theorem ofJson_arranged_lists :
    let schema : Schema := {
      name := "shop"
      tables := [{ name := "users", columns := [{ name := "id", type := ⟨"INT"⟩ }] }] }
    (∃ read, ofJson "[\"shop\",null,[[\"users\",null,[[\"id\",\"INT\"]]]]]" = .ok read ∧
      (read == schema) = true) ∧
    ∃ fault, ofJson "[\"shop\",null,[[\"users\",null,[[\"id\"]]]]]" = .error fault := by
  intro schema
  have arranged := (ofJson_arranged schema).2
  let arrangement (kept : Nat) : Arrangement :=
    ⟨.cut 3, fun _ => ⟨.cut 3, fun _ => .cut kept, fun _ => .named⟩, fun _ => .named⟩
  let list (column : List Value) : Value :=
    .list [.text "shop", .null, .list [.list [.text "users", .null, .list [.list column]]]]
  constructor
  · have laid : Laid (schema.form (arrangement 2)).lexemes
        "[\"shop\",null,[[\"users\",null,[[\"id\",\"INT\"]]]]]".toList :=
      (list [.text "id", .text "INT"]).laid_compact
    have accepted : ¬ schema.IsRefused (arrangement 2) := by
      rintro (short | ⟨_, _, -, short | ⟨_, _, -, short⟩ | ⟨_, _, _, -, refused⟩⟩ | ⟨visible, -⟩)
      · exact absurd short (lt_irrefl 3)
      · exact absurd short (lt_irrefl 3)
      · exact absurd short (lt_irrefl 2)
      · exact refused
      · exact absurd visible (lt_irrefl 3)
    obtain ⟨held, read, result, ok, same⟩ := (arranged _ _ laid).2.1 accepted
    obtain rfl : schema = held := Option.some.inj result
    exact ⟨read, ok, same⟩
  · have laid : Laid (schema.form (arrangement 1)).lexemes
        "[\"shop\",null,[[\"users\",null,[[\"id\"]]]]]".toList :=
      (list [.text "id"]).laid_compact
    have refused : (Manner.cut 1).IsRefused .column := Nat.lt_succ_self 1
    exact (arranged _ _ laid).2.2 (.inr (.inl ⟨0, _, rfl, .inr (.inl ⟨0, _, rfl, refused⟩)⟩))

end Schema

end SchemaPress
