import SchemaPress.Document.Source

/-!
# Records with known fields

A shape says which fields a record has and how each is read into a draft, and it turns the finished
draft into a value. Fields may come under their names in any order, with others between them that
are passed over; then no field may come twice. Or they come without names in the order of the shape.
In either case a field that is missing takes its standard value, or is complained of.
-/

set_option autoImplicit false

namespace SchemaPress.Document

/-- A field of a record: its name, whether a draft has it, and how it is read into a draft. -/
structure Field (ν : Type) (m : Type → Type) (δ : Type) where
  name : String
  isSet : δ → Bool
  read : ν → δ → m δ

/-- The fields of a record, collected in drafts of type `δ` for values of type `α`. -/
structure Shape (ν : Type) (m : Type → Type) (δ α : Type) where
  title : String
  fields : List (Field ν m δ)
  empty : δ
  /-- The value of a draft, or the name of the first field that it lacks. -/
  finish : δ → Except String α

/-- A field kept in an optional part of a draft. -/
def Field.of {ν δ β : Type} {m : Type → Type} [Monad m] (name : String) (get : δ → Option β)
    (set : β → δ → δ) (read : ν → m β) : Field ν m δ where
  name := name
  isSet draft := (get draft).isSome
  read node draft := return set (← read node) draft

/-- The value of a field without which a record is not complete. -/
def required {β : Type} (name : String) (value : Option β) : Except String β :=
  match value with
  | some value => .ok value
  | none => .error name

namespace Shape

variable {ν δ α : Type} {m : Type → Type} [Monad m] [Source ν m]

/-- Takes a named field of the record into a draft; a field of another name is passed over. -/
def addMember (shape : Shape ν m δ α) (node : ν) (draft : δ) (member : Member ν m) : m δ := do
  let key ← member.key
  match shape.fields.find? (·.name == key) with
  | none =>
    Source.skip member.value
    return draft
  | some field =>
    if field.isSet draft then Source.complain node member.place (.repeatedField key)
    else field.read member.value draft

/-- Takes fields without names into a draft, as far as there are any. -/
def addItems : List (Field ν m δ) → List ν → δ → m δ
  | field :: fields, item :: items, draft => do addItems fields items (← field.read item draft)
  | _, _, draft => return draft

def size (shape : Shape ν m δ α) : String :=
  toString shape.fields.length ++ (if shape.fields.length = 1 then " element" else " elements")

/-- The complaint about a record without a field, which names the field or counts the fields. -/
def lacking (shape : Shape ν m δ α) (named : Bool) (name : String) : Complaint :=
  if named then .missingField name
  else .wrongLength (shape.fields.findIdx (·.name == name))
    (shape.title ++ " with " ++ shape.size)

/-- Reads a record. -/
def read (shape : Shape ν m δ α) (node : ν) : m α := do
  let (named, draft, place) ← collect
  match shape.finish draft with
  | .ok value => return value
  | .error name => Source.complain node place (shape.lacking named name)
where
  /-- All fields of the record in a draft, and the place of a complaint about one that is missing.
  -/
  collect : m (Bool × δ × Text.Place) := do
    match ← Source.record shape.title shape.fields.length node with
    | .named members ending =>
      let draft ← members.foldlM (shape.addMember node) shape.empty
      return (true, draft, ← ending)
    | .positional items ending =>
      let draft ← addItems shape.fields items shape.empty
      return (false, draft, ← ending)

end Shape

end SchemaPress.Document
