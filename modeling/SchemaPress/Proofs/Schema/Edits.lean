import Mathlib.Logic.Relation
import SchemaPress.Proofs.Schema.Codec
import SchemaPress.Proofs.Schema.Parts

/-!
# Edits of a schema's text

Which schema a JSON text holds depends on its content only. `Edit` lists the changes that leave the
content alone, in the record of the schema and in every record inside it; whatever number of them is
made to the canonical form of a schema, in whatever layout, the text still holds an equal schema.
`Breaking` lists the three changes that no such text survives: a required field that is taken away,
a known field that is repeated, and a key that stands for no text. A key that may be put in is any
name that no field has, written in any way; escapes that are half of a surrogate pair are no name.

One edit keeps what a record is read as (`Edit.read_eq`), by the laws of records where it is made
and by induction on how deep it is. Any number of edits keeps it by induction on that number.
-/

set_option autoImplicit false

namespace SchemaPress

open Document Json

/-- Says that a record of a kind becomes another one by a change that leaves its content alone. -/
inductive Edit : Part → Written → Written → Prop where
  /-- Members change places. -/
  | permute {part : Part} {members others : List (List Glyph × Written)}
      (perm : members.Perm others) : Edit part (.record members) (.record others)
  /-- A member whose name is that of no field is put in, with any value. -/
  | insert {part : Part} {before after : List (List Glyph × Written)} {key : List Glyph}
      {name : String} (named : Glyph.text? key = some name) (unknown : name ∉ part.known)
      (value : Written) :
      Edit part (.record (before ++ after)) (.record (before ++ (key, value) :: after))
  /-- A field with its standard value is left out. -/
  | leaveOut {part : Part} {before after : List (List Glyph × Written)} {key : List Glyph}
      {name : String} {value : Written} (named : Glyph.text? key = some name)
      (standard : (name, value) ∈ part.standard) :
      Edit part (.record (before ++ (key, value) :: after)) (.record (before ++ after))
  /-- A field that is absent is written as null. -/
  | writeNull {part : Part} {before after : List (List Glyph × Written)} {key : List Glyph}
      {name : String} (named : Glyph.text? key = some name) (optional : name ∈ part.optional)
      (absent : name ∉ Written.keys (before ++ after)) :
      Edit part (.record (before ++ after)) (.record (before ++ (key, .null) :: after))
  /-- A record in a list of records is changed. -/
  | inside {part inner : Part} {before after : List (List Glyph × Written)} {key : List Glyph}
      {name : String} {front back : List Written} {item changed : Written}
      (named : Glyph.text? key = some name) (nested : (name, inner) ∈ part.nested)
      (edit : Edit inner item changed) :
      Edit part (.record (before ++ (key, .list (front ++ item :: back)) :: after))
        (.record (before ++ (key, .list (front ++ changed :: back)) :: after))

/-- Says that a record of a kind becomes another one by a change that it does not survive. -/
inductive Breaking : Part → Written → Written → Prop where
  /-- A required field is taken away. -/
  | remove {part : Part} {before after : List (List Glyph × Written)} {key : List Glyph}
      {name : String} {value : Written} (named : Glyph.text? key = some name)
      (required : name ∈ part.required) :
      Breaking part (.record (before ++ (key, value) :: after)) (.record (before ++ after))
  /-- A field that is there is put in once more, with any value. -/
  | repeated {part : Part} {before after : List (List Glyph × Written)} {key : List Glyph}
      {name : String} (named : Glyph.text? key = some name) (known : name ∈ part.known)
      (present : name ∈ Written.keys (before ++ after)) (value : Written) :
      Breaking part (.record (before ++ after)) (.record (before ++ (key, value) :: after))
  /-- A member whose key stands for no text is put in, with any value. -/
  | unnamed {part : Part} {before after : List (List Glyph × Written)} {key : List Glyph}
      (nameless : Glyph.text? key = none) (value : Written) :
      Breaking part (.record (before ++ after)) (.record (before ++ (key, value) :: after))
  /-- A record in a list of records is broken. -/
  | inside {part inner : Part} {before after : List (List Glyph × Written)} {key : List Glyph}
      {name : String} {front back : List Written} {item broken : Written}
      (named : Glyph.text? key = some name) (nested : (name, inner) ∈ part.nested)
      (breaking : Breaking inner item broken) :
      Breaking part (.record (before ++ (key, .list (front ++ item :: back)) :: after))
        (.record (before ++ (key, .list (front ++ broken :: back)) :: after))

/-- A record with a nested record that cannot be read cannot be read either. -/
theorem Part.read_item {part inner : Part} {before after : List (List Glyph × Written)}
    {key : List Glyph} {name : String} {front back : List Written} {item : Written}
    (named : Glyph.text? key = some name) (nested : (name, inner) ∈ part.nested)
    {result : part.Value}
    (read : part.read (.record (before ++ (key, .list (front ++ item :: back)) :: after)) =
      some result) : ∃ value, inner.read item = some value := by
  cases h : inner.read item with
  | some value => exact ⟨value, rfl⟩
  | none =>
    rw [Part.read, Shape.Lawful.read_item_none (Part.isListOf nested) named h] at read
    cases read

namespace Edit

/-- A record that can be read is read as the same after an edit. -/
theorem read_eq {part : Part} {form changed : Written} (edit : Edit part form changed)
    {result : part.Value} (read : part.read form = some result) :
    part.read changed = some result := by
  induction edit with
  | permute perm =>
    rw [← read]
    exact ((Part.lawful _).read_perm perm).symm
  | insert named unknown value =>
    rw [← read]
    exact (Part.lawful _).read_unknown named (Part.mem_known.not.mp unknown)
  | leaveOut named standard =>
    -- The record can be read, so the field that is left out did not come twice.
    have standard := Part.isStandard standard
    have absent := (Part.lawful _).not_mem_keys named standard.known read
    rw [← read]
    exact ((Part.lawful _).read_standard named standard absent).symm
  | writeNull named optional absent =>
    rw [← read]
    exact (Part.lawful _).read_standard named (Part.isStandard_null optional) absent
  | inside named nested _ ih =>
    obtain ⟨value, item⟩ := Part.read_item named nested read
    rw [← read]
    exact Shape.Lawful.read_item (Part.isListOf nested) named ((ih item).trans item.symm)

/-- A record that can be read is read as the same after any number of edits. -/
theorem read_eq_of_edits {part : Part} {form changed : Written}
    (edits : Relation.ReflTransGen (Edit part) form changed) {result : part.Value}
    (read : part.read form = some result) : part.read changed = some result := by
  induction edits with
  | refl => exact read
  | tail _ edit ih => exact edit.read_eq ih

end Edit

/-- A record that can be read cannot be read once it is broken. -/
theorem Breaking.read_eq_none {part : Part} {form broken : Written}
    (breaking : Breaking part form broken) {result : part.Value}
    (read : part.read form = some result) : part.read broken = none := by
  induction breaking with
  | remove named required =>
    -- The record could be read, so the field that is taken away does not come a second time.
    have required := Part.isRequired required
    have absent := (Part.lawful _).not_mem_keys named required.known read
    exact (Part.lawful _).read_missing required absent
  | repeated named known present value =>
    exact (Part.lawful _).read_repeated named (Part.mem_known.mp known) present
  | unnamed nameless value => exact (Part.lawful _).read_unnamed nameless
  | inside named nested _ ih =>
    obtain ⟨value, item⟩ := Part.read_item named nested read
    exact Shape.Lawful.read_item_none (Part.isListOf nested) named (ih item)

namespace Schema

/-- The canonical form of a schema is the layout of a form that may be edited any number of times:
every text in which the edited form is laid out holds an equal schema, and every text in which it is
laid out once it has been broken holds none. -/
theorem ofJson_edited (schema : Schema) {form : Written}
    (edits : Relation.ReflTransGen (Edit .schema) schema.toJson.written form) :
    Laid schema.toJson.written.lexemes schema.canonical.toList ∧
    (∀ text : String, Laid form.lexemes text.toList →
      ∃ read, ofJson text = .ok read ∧ (read == schema) = true) ∧
    (∀ (broken : Written) (text : String), Breaking .schema form broken →
      Laid broken.lexemes text.toList → ∃ fault, ofJson text = .error fault) := by
  have read : Part.schema.read form = some schema.normal :=
    Edit.read_eq_of_edits edits schema.read_toJson
  refine ⟨schema.toJson.laid_pretty, fun text laid => ⟨schema.normal, ?_, schema.normal_beq⟩,
    fun broken text breaking laid => ?_⟩
  · have holds : (ofJson text).toOption = some schema.normal := (ofJson_laid laid).trans read
    cases result : ofJson text with
    | error fault =>
      rw [result] at holds
      cases holds
    | ok value =>
      rw [result] at holds
      exact congrArg Except.ok (Option.some.inj holds)
  · have holds : (ofJson text).toOption = none :=
      (ofJson_laid laid).trans (breaking.read_eq_none read)
    cases result : ofJson text with
    | error fault => exact ⟨fault, rfl⟩
    | ok value =>
      rw [result] at holds
      cases holds

/-- A flag of a column is left out, an unknown key is put into an index, and members change places:
the text still holds the schema. Without the type of the column it holds none. -/
theorem ofJson_edited_users :
    let users : Table :=
      { name := "users", columns := [{ name := "id", type := ⟨"UUID"⟩ }],
        indexes := [{ name := "by_id", columns := ["id"] }] }
    let shop : Schema := { name := "shop", tables := [users] }
    let index : Value := .record [("method", .text "btree"), ("name", .text "by_id"),
      ("columns", .list [.text "id"]), ("unique", .flag false)]
    let edited (type : List (String × Value)) : Value :=
      .record [
        ("tables", .list [.record [("name", .text "users"),
          ("columns", .list [.record ([("name", .text "id")] ++ type
            ++ [("primary_key", .flag false), ("unique", .flag false)])]),
          ("indexes", .list [index])]]),
        ("name", .text "shop"), ("relationships", .list []), ("suggestions", .list [])]
    (∃ read, ofJson (edited [("type", .text "UUID")]).pretty = .ok read ∧
      (read == shop) = true) ∧
    ∃ fault, ofJson (edited []).pretty = .error fault := by
  intro users shop index edited
  have tables := Glyph.text?_ofChars "tables"
  have columns := Glyph.text?_ofChars "columns"
  have edits : Relation.ReflTransGen (Edit .schema) shop.toJson.written
      (edited [("type", .text "UUID")]).written := by
    refine .head (@Edit.inside _ .table [_] [_, _] _ _ [] [] _ _ tables (.head _)
      (@Edit.inside _ .column [_] [_] _ _ [] [] _ _ columns (.head _)
        (@Edit.leaveOut _ [_, _] [_, _] _ _ _ (Glyph.text?_ofChars "nullable") (.head _)))) ?_
    refine .head (@Edit.inside _ .table [_] [_, _] _ _ [] [] _ _ tables (.head _)
      (@Edit.inside _ .index [_, _] [] _ _ [] [] _ _ (Glyph.text?_ofChars "indexes")
        (.tail _ (.head _)) (@Edit.insert _ [] [_, _, _] _ _ (Glyph.text?_ofChars "method")
          (by decide) (Value.text "btree").written))) ?_
    exact .single (.permute (.swap _ _ _))
  have results := ofJson_edited _ edits
  refine ⟨results.2.1 _ (Value.laid_pretty _), results.2.2 _ _ ?_ (Value.laid_pretty _)⟩
  exact @Breaking.inside _ .table [] [_, _, _] _ _ [] [] _ _ tables (.head _)
    (@Breaking.inside _ .column [_] [_] _ _ [] [] _ _ columns (.head _)
      (@Breaking.remove _ [_] [_, _] _ _ _ (Glyph.text?_ofChars "type") (.tail _ (.head _))))

end Schema

end SchemaPress
