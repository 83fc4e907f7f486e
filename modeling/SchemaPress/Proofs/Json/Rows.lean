import SchemaPress.Proofs.Json.RecordGaps

/-!
# Records without names

A list with the values of the fields of a record, in the order of the fields, is read as the record
with these values under the names of the fields (`read_row`). So the laws of records hold for lists
too: values at the end of a list may be left out if their fields have these values by standard
(`read_row_append`), and a list that ends before a required field is not complete
(`read_row_short`). What only a list can have is a value too many, and then it is refused
(`read_row_long`).
-/

set_option autoImplicit false

namespace SchemaPress.Document.Shape

open Json (Written Glyph)

variable {δ α : Type}

/-- The names of the fields of a record, in their order. -/
def fieldNames (shape : Shape Written Option δ α) : List String :=
  shape.fields.map (·.name)

/-- A list that is not too long is read as the value of the draft of its items. -/
theorem read_list {shape : Shape Written Option δ α} {items : List Written}
    (fits : items.length ≤ shape.fields.length) :
    shape.read (.list items) = (addItems shape.fields items shape.empty).bind fun draft =>
      (shape.finish draft).toOption := by
  have collected : Shape.read.collect shape (.list items) =
      (addItems shape.fields items shape.empty).map fun draft => (false, draft, .start) := by
    show (addItems shape.fields (items.take shape.fields.length) shape.empty).bind (fun draft =>
      (ite (items.length ≤ shape.fields.length) (some Text.Place.start) none).bind fun place =>
        some (false, draft, place)) = _
    rw [List.take_of_length_le fits, if_pos fits]
    cases addItems shape.fields items shape.empty <;> rfl
  unfold Shape.read
  rw [collected]
  cases addItems shape.fields items shape.empty with
  | none => rfl
  | some draft =>
    simp only [Option.map_some, Option.bind_some, bind]
    cases shape.finish draft <;> rfl

/-- A list that is longer than the record is refused. -/
theorem read_row_long (shape : Shape Written Option δ α) {items : List Written}
    (exceeds : shape.fields.length < items.length) : shape.read (.list items) = none := by
  have collected : Shape.read.collect shape (.list items) = none := by
    show (addItems shape.fields (items.take shape.fields.length) shape.empty).bind (fun draft =>
      (ite (items.length ≤ shape.fields.length) (some Text.Place.start) none).bind fun place =>
        some (false, draft, place)) = _
    rw [if_neg (by omega)]
    cases addItems shape.fields (items.take shape.fields.length) shape.empty <;> rfl
  unfold Shape.read
  rw [collected]
  rfl

namespace Lawful

variable {shape : Shape Written Option δ α}

/-- A field is found under its name. -/
theorem field?_name (lawful : shape.Lawful) {field : Field Written Option δ}
    (mem : field ∈ shape.fields) : shape.field? field.name = some field := by
  obtain ⟨found, here⟩ := exists_field? (List.mem_map_of_mem (f := (·.name)) mem)
  obtain ⟨mem', same⟩ := mem_of_field? here
  rw [here, lawful.eq_of_name mem' mem same]

/-- Items are taken into a draft as they are under the names of their fields. -/
theorem addItems_eq (lawful : shape.Lawful) {before fields : List (Field Written Option δ)}
    (whole : shape.fields = before ++ fields) (items : List Written) {draft : δ}
    (unset : ∀ field ∈ fields, field.isSet draft = false) :
    addItems fields items draft =
      ((fields.map (·.name)).zip items).foldlM shape.takeSpelled? draft := by
  -- The fields behind the one that is read stay unset, for they are kept apart from it.
  induction fields generalizing before items draft with
  | nil => rfl
  | cons field fields ih =>
    cases items with
    | nil => rfl
    | cons item items =>
      have mem : field ∈ shape.fields := by simp [whole]
      have taken : shape.takeSpelled? draft (field.name, item) = field.read item draft := by
        simp [takeSpelled?, lawful.field?_name mem, unset field List.mem_cons_self]
      have apart := (List.pairwise_append.mp (whole ▸ lawful.apart)).2.1
      rw [List.map_cons, List.zip_cons_cons, List.foldlM_cons, taken]
      show (field.read item draft).bind (addItems fields items) = _
      cases read : field.read item draft with
      | none => rfl
      | some changed =>
        have whole' : shape.fields = (before ++ [field]) ++ fields := by simp [whole]
        refine ih whole' items fun other later => ?_
        rw [(List.rel_of_pairwise_cons apart later).keepsSecond item draft changed read]
        exact unset other (List.mem_cons_of_mem field later)

section

-- The fields that a list has values for come before those that it has none for.
variable {before later : List String} {items : List Written}
  (split : shape.fieldNames = before ++ later) (same : before.length = items.length)
include split same

/-- A list is read as the record with its items under the names of the fields. -/
theorem read_row (lawful : shape.Lawful) :
    shape.read (.list items) = shape.read (.record (spelled (before.zip items))) := by
  have width : shape.fields.length = before.length + later.length := by
    rw [← List.length_append, ← split, fieldNames, List.length_map]
  have pairs : shape.fieldNames.zip items = before.zip items := by
    conv_lhs => rw [split, ← List.append_nil items]
    rw [List.zip_append same, List.zip_nil_right, List.append_nil]
  rw [read_list (by omega), read_spelled, ← pairs, fieldNames,
    lawful.addItems_eq (List.nil_append _).symm items lawful.blank]

/-- The first values of a list do not belong to later fields. -/
theorem not_mem_keys_row (lawful : shape.Lawful) {name : String} (behind : name ∈ later) :
    name ∉ Written.keys (spelled (before.zip items)) := by
  rw [keys_spelled, List.map_fst_zip same.le]
  intro earlier
  have distinct : (before ++ later).Nodup := split ▸ lawful.names
  exact (List.nodup_append.mp distinct).2.2 name earlier name behind rfl

/-- A list that ends before a required field is not complete. -/
theorem read_row_short (lawful : shape.Lawful) {name : String} (required : shape.IsRequired name)
    (behind : name ∈ later) : shape.read (.list items) = none := by
  rw [lawful.read_row split same]
  exact lawful.read_missing required (lawful.not_mem_keys_row split same behind)

end

/-- Values at the end of a list may be left out where they are standard. -/
theorem read_row_append (lawful : shape.Lawful) {before later : List String}
    {items fillers : List Written} (split : shape.fieldNames = before ++ later)
    (same : before.length = items.length)
    (standard : List.Forall₂ shape.IsStandard later fillers) :
    shape.read (.list (items ++ fillers)) = shape.read (.list items) := by
  induction standard generalizing before items with
  | nil => rw [List.append_nil]
  | @cons name filler later fillers standard _ ih =>
    have split' : shape.fieldNames = (before ++ [name]) ++ later := by simp [split]
    have same' : (before ++ [name]).length = (items ++ [filler]).length := by simp [same]
    have absent := lawful.not_mem_keys_row split same List.mem_cons_self
    have put : shape.read (.record (spelled (before.zip items) ++
          (name.toList.map Glyph.ofChar, filler) :: [])) =
        shape.read (.record (spelled (before.zip items) ++ [])) :=
      lawful.read_standard (Glyph.text?_ofChars name) standard (by rwa [List.append_nil])
    have rest := ih split' same'
    rw [List.append_assoc, List.singleton_append] at rest
    rw [rest, lawful.read_row split' same', lawful.read_row split same, List.zip_append same]
    simpa [spelled] using put

end Lawful

end SchemaPress.Document.Shape
