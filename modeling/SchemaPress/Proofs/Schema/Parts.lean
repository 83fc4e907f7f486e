import SchemaPress.Proofs.Json.RecordLaws
import SchemaPress.Schema.Reading

/-!
# The records of a schema

A schema is a record of records of five kinds. For each kind the tables below say which fields it
must have, which it may leave out and with what value, which may be null, and which are lists of
further records. That the readings of schemas follow these tables is proved once for all kinds:
their shapes are lawful, and each field is treated by its shape as its table says.
-/

set_option autoImplicit false

namespace SchemaPress

open Document Document.Shape Json

/-- A kind of record in a schema. -/
inductive Part where
  | schema
  | table
  | column
  | index
  | relationship
  deriving DecidableEq, Repr

namespace Part

/-- The fields that a record of a kind must have. -/
def required : Part → List String
  | schema => ["name", "tables"]
  | table => ["name", "columns"]
  | column => ["name", "type"]
  | index => ["name", "columns"]
  | relationship => ["from_table", "from_column", "to_table", "to_column", "type"]

/-- The fields that a record of a kind may leave out, each with the value that it then has. -/
def standard : Part → List (String × Written)
  | schema => [("relationships", .list []), ("suggestions", .list [])]
  | table => [("indexes", .list [])]
  | column => [("nullable", .flag true), ("primary_key", .flag false), ("unique", .flag false)]
  | index => [("unique", .flag false)]
  | relationship => []

/-- The fields of a kind of record that may be absent, and may then be null as well. -/
def optional : Part → List String
  | schema => ["description"]
  | table => ["description"]
  | column => ["default", "description", "temporal"]
  | index => []
  | relationship => ["on_delete"]

/-- The fields of a kind of record that are lists of records, each with the kind of these. -/
def nested : Part → List (String × Part)
  | schema => [("tables", table), ("relationships", relationship)]
  | table => [("columns", column), ("indexes", index)]
  | column | index | relationship => []

/-- All keys that a kind of record knows. -/
def known (part : Part) : List String :=
  part.required ++ part.standard.map Prod.fst ++ part.optional

/-! ## The readings of the records -/

/-- What a record of a kind is read as. -/
abbrev Value : Part → Type
  | schema => Schema
  | table => Table
  | column => Column
  | index => Index
  | relationship => Relationship

/-- A record of a kind of which some fields have been read. -/
abbrev Draft : Part → Type
  | schema => Schema.Draft
  | table => Table.Draft
  | column => Column.Draft
  | index => Index.Draft
  | relationship => Relationship.Draft

/-- The shape of a kind of record. -/
def shape : (part : Part) → Shape Written Option part.Draft part.Value
  | schema => Schema.shape
  | table => Table.shape
  | column => Column.shape
  | index => Index.shape
  | relationship => Relationship.shape

/-- Reads a record of a kind from a written value. -/
def read (part : Part) (written : Written) : Option part.Value :=
  part.shape.read written

/-- The tables name exactly the fields of the shape. -/
theorem mem_known {part : Part} {name : String} :
    name ∈ part.known ↔ name ∈ part.shape.fields.map (·.name) := by
  have perm : part.known.Perm (part.shape.fields.map (·.name)) := by
    cases part <;> decide
  exact perm.mem_iff

/-- The fields of every kind of record have different names and are kept apart in its drafts. -/
theorem lawful (part : Part) : part.shape.Lawful where
  names := by cases part <;> decide
  blank := by
    cases part <;>
      simp [shape, Schema.shape, Table.shape, Column.shape, Index.shape, Relationship.shape,
        Field.of]
  -- Each field has a part of the draft to itself, so setting one and looking at another, or setting
  -- both in either order, are the same by computation.
  sets := by
    cases part <;>
      simp only [shape, Schema.shape, Table.shape, Column.shape, Index.shape, Relationship.shape,
        List.forall_mem_cons] <;>
      and_intros
    all_goals first
      | exact Field.isSet_of_read fun _ _ => rfl
      | exact fun _ mem => absurd mem List.not_mem_nil
  apart := by
    cases part <;>
      simp only [shape, Schema.shape, Table.shape, Column.shape, Index.shape, Relationship.shape,
        List.pairwise_cons, List.forall_mem_cons] <;>
      and_intros
    all_goals first
      | exact Field.Apart.of (fun _ _ => rfl) (fun _ _ => rfl) (fun _ _ _ => rfl)
      | exact fun _ mem => absurd mem List.not_mem_nil
      | exact List.Pairwise.nil

/-- A record without a required field is not complete. -/
theorem isRequired {part : Part} {name : String} (required : name ∈ part.required) :
    part.shape.IsRequired name := by
  cases part <;> simp only [Part.required, List.mem_cons, List.not_mem_nil, or_false] at required
  case schema | table | column | index =>
    rcases required with rfl | rfl
    · exact .of rfl fun draft absent => lacking_here absent
    · exact .of rfl fun draft absent => lacking_later fun _ => lacking_here absent
  case relationship =>
    rcases required with rfl | rfl | rfl | rfl | rfl
    · exact .of rfl fun draft absent => lacking_here absent
    · exact .of rfl fun draft absent => lacking_later fun _ => lacking_here absent
    · exact .of rfl fun draft absent =>
        lacking_later fun _ => lacking_later fun _ => lacking_here absent
    · exact .of rfl fun draft absent =>
        lacking_later fun _ => lacking_later fun _ => lacking_later fun _ => lacking_here absent
    · exact .of rfl fun draft absent =>
        lacking_later fun _ => lacking_later fun _ => lacking_later fun _ => lacking_later fun _ =>
          lacking_here absent

/-- A field that may be left out may have its standard value instead. -/
theorem isStandard {part : Part} {name : String} {value : Written}
    (standard : (name, value) ∈ part.standard) : part.shape.IsStandard name value := by
  cases part <;>
    simp only [Part.standard, List.mem_cons, Prod.mk.injEq, List.not_mem_nil, or_false] at standard
  case schema =>
    rcases standard with ⟨rfl, rfl⟩ | ⟨rfl, rfl⟩
    · exact .of rfl rfl fun draft unset => by simp [shape, Schema.shape, unset]
    · exact .of rfl rfl fun draft unset => by simp [shape, Schema.shape, unset]
  case table =>
    obtain ⟨rfl, rfl⟩ := standard
    exact .of rfl rfl fun draft unset => by simp [shape, Table.shape, unset]
  case column =>
    rcases standard with ⟨rfl, rfl⟩ | ⟨rfl, rfl⟩ | ⟨rfl, rfl⟩
    · exact .of rfl rfl fun draft unset => by simp [shape, Column.shape, unset]
    · exact .of rfl rfl fun draft unset => by simp [shape, Column.shape, unset]
    · exact .of rfl rfl fun draft unset => by simp [shape, Column.shape, unset]
  case index =>
    obtain ⟨rfl, rfl⟩ := standard
    exact .of rfl rfl fun draft unset => by simp [shape, Index.shape, unset]

/-- A field that may be absent may be null instead. -/
theorem isStandard_null {part : Part} {name : String} (optional : name ∈ part.optional) :
    part.shape.IsStandard name .null := by
  cases part <;> simp only [Part.optional, List.mem_cons, List.not_mem_nil, or_false] at optional
  case schema =>
    obtain rfl := optional
    exact .of rfl rfl fun draft unset => by simp [shape, Schema.shape, unset]
  case table =>
    obtain rfl := optional
    exact .of rfl rfl fun draft unset => by simp [shape, Table.shape, unset]
  case column =>
    rcases optional with rfl | rfl | rfl
    · exact .of rfl rfl fun draft unset => by simp [shape, Column.shape, unset]
    · exact .of rfl rfl fun draft unset => by simp [shape, Column.shape, unset]
    · exact .of rfl rfl fun draft unset => by simp [shape, Column.shape, unset]
  case relationship =>
    obtain rfl := optional
    exact .of rfl rfl fun draft unset => by simp [shape, Relationship.shape, unset]

/-- A field that is a list of records is read as a list of those. -/
theorem isListOf {part inner : Part} {name : String} (nested : (name, inner) ∈ part.nested) :
    part.shape.IsListOf name inner.read := by
  cases part <;>
    simp only [Part.nested, List.mem_cons, Prod.mk.injEq, List.not_mem_nil, or_false] at nested
  case schema =>
    rcases nested with ⟨rfl, rfl⟩ | ⟨rfl, rfl⟩
    · exact .of rfl
    · exact .of rfl
  case table =>
    rcases nested with ⟨rfl, rfl⟩ | ⟨rfl, rfl⟩
    · exact .of rfl
    · exact .of rfl

end Part

end SchemaPress
