import SchemaPress.Document.Complaint
import SchemaPress.Text.Place

/-!
# What can be read from a document

A notation turns a text into nodes. `Source` gives the readings that a node of a notation offers:
a text, a flag, a count, one of some words, a list, a record. A list and the fields of a record
are views: what there is up to a fault, and then the fault or the end. Whoever reads a view works
through it from front to back, so the first fault in the text is the one that is reported. The
readings of a notation form a monad; a reading may fail, and it may go on from what was read before.
-/

set_option autoImplicit false

namespace SchemaPress.Document

/-- The items of a list up to its end or to a fault. -/
structure Items (ν : Type) (m : Type → Type) where
  items : List ν
  ending : m Unit

/-- A named field of a record. -/
structure Member (ν : Type) (m : Type → Type) where
  key : m String
  /-- The place of a complaint about the key. -/
  place : Text.Place
  value : ν

/-- The fields of a record up to its end or to a fault; the end has the place of a complaint about a
field that is missing. -/
inductive Fields (ν : Type) (m : Type → Type) where
  /-- Fields under their names, in any order. -/
  | named (members : List (Member ν m)) (ending : m Text.Place)
  /-- Fields without names, in the order of the record's declaration. -/
  | positional (items : List ν) (ending : m Text.Place)

/-- The readings that the nodes of a notation offer. -/
class Source (ν : Type) (m : outParam (Type → Type)) where
  /-- A text. -/
  text : ν → m String
  /-- A truth value. -/
  flag : ν → m Bool
  /-- A natural number of 64 bits. -/
  count : ν → m Nat
  /-- The value that one of some words stands for. -/
  oneOf : {α : Type} → List (String × α) → ν → m α
  /-- The node to read a value from, if there is a value. -/
  present? : ν → m (Option ν)
  /-- A list. -/
  list : ν → m (Items ν m)
  /-- The fields of a record with a title and a number of fields. -/
  record : String → Nat → ν → m (Fields ν m)
  /-- Goes over a node that nobody reads, for the faults in it. -/
  skip : ν → m Unit
  /-- Fails with a complaint about a record. -/
  complain : {α : Type} → ν → Text.Place → Complaint → m α

variable {ν α : Type} {m : Type → Type} [Monad m] [Source ν m]

/-- Reads every item of a list. -/
def readList (read : ν → m α) (node : ν) : m (List α) := do
  let view ← Source.list node
  let values ← view.items.mapM read
  view.ending
  return values

def readOptional (read : ν → m α) (node : ν) : m (Option α) := do
  match ← Source.present? node with
  | none => return none
  | some node => return some (← read node)

end SchemaPress.Document
