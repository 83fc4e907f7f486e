import SchemaPress.Proofs.Json.Printing
import SchemaPress.Proofs.Json.RecordLaws

/-!
# Reading what was printed

What is read of the pretty text of a value is what is read of the tree that the printer writes, and
of that tree texts, truth values, numbers, lists and records are read as what they were printed
from.
-/

set_option autoImplicit false

namespace SchemaPress

open Document

namespace Json

/-- What is read of a printed value is what is read of its tree. -/
theorem read_pretty {α : Type} {reading : Node → Except Fault α} {plain : Written → Option α}
    (agree : Agree reading plain) (value : Value) :
    (Json.read reading value.pretty).toOption = plain value.written :=
  read_laid agree value.laid_pretty

/-- What is written in decimal digits is the number itself. -/
theorem WrittenNumber.count?_ofNat {n : Nat} (bounded : n < Numeral.wholeBound) :
    (WrittenNumber.ofNat n).count? = some n := by
  have value : Text.decimalValue (Nat.toDigits 10 n) = n :=
    Nat.ofDigitChars_toDigits (by decide) (by decide)
  have digits : (Nat.toDigits 10 n).all Char.isDigit = true :=
    List.all_eq_true.mpr (Digits.ofNat n).digits
  change Text.numeral? Numeral.wholeBound (Nat.toDigits 10 n) = some n
  rw [Text.numeral?, value, digits, decide_eq_true bounded]
  rfl

namespace Value

/-- A text is read as it was written. -/
@[simp]
theorem text_written (text : String) : Source.text (Value.text text).written = some text :=
  Glyph.text?_ofChars text

/-- So is a flag. -/
@[simp]
theorem flag_written (flag : Bool) : Source.flag (Value.flag flag).written = some flag :=
  rfl

/-- So is a count of 64 bits. -/
theorem count_written {n : Nat} (bounded : n < Numeral.wholeBound) :
    Source.count (Value.number n).written = some n :=
  WrittenNumber.count?_ofNat bounded

/-- A list is read as the list of what its items are read as. -/
theorem list_written {α β : Type} {read : Written → Option β} {print : α → Value} {result : α → β}
    (reads : ∀ value, read (print value).written = some (result value)) (values : List α) :
    readList read (Value.list (values.map print)).written = some (values.map result) := by
  have items : (writtenItems (values.map print)).mapM read = some (values.map result) := by
    rw [writtenItems_eq]
    induction values with
    | nil => rfl
    | cons value values ih =>
      simp only [List.map_cons, List.mapM_cons, reads, ih]
      rfl
  show ((writtenItems (values.map print)).mapM read).bind _ = _
  rw [items]
  rfl

/-- A text that may be absent is read as itself where it is present. -/
theorem optional_written {β : Type} (read : Written → Option β) (text : String) :
    readOptional read (Value.text text).written = (read (Value.text text).written).map some := by
  show (read (Value.text text).written).bind _ = _
  cases read (Value.text text).written <;> rfl

/-- One of some words is read as the value that it stands for. -/
theorem oneOf_written {α : Type} (choices : List (String × α)) (word : String) :
    Source.oneOf choices (Value.text word).written = choices.lookup word := by
  show (Glyph.text? _).bind _ = _
  rw [Glyph.text?_ofChars]
  rfl

end Value

end Json

namespace Document

open Json (Written Glyph Value)

/-- The members of a record, with every character of a name standing for itself. -/
def spelled (values : List (String × Written)) : List (List Glyph × Written) :=
  values.map fun value => (value.1.toList.map Glyph.ofChar, value.2)

namespace Shape

variable {δ α : Type}

/-- Takes a written value under a name into a draft. -/
def takeSpelled? (shape : Shape Written Option δ α) (draft : δ) (member : String × Written) :
    Option δ :=
  match shape.field? member.1 with
  | none => some draft
  | some field => if field.isSet draft then none else field.read member.2 draft

/-- A record is read as the value of the draft of its members. -/
theorem read_spelled (shape : Shape Written Option δ α) (values : List (String × Written)) :
    shape.read (.record (spelled values)) =
      (values.foldlM shape.takeSpelled? shape.empty).bind fun draft =>
        (shape.finish draft).toOption := by
  have taken (draft : δ) (member : String × Written) :
      shape.take? draft (member.1.toList.map Glyph.ofChar, member.2) =
        shape.takeSpelled? draft member := by
    have name := Glyph.text?_ofChars member.1
    cases found : shape.field? member.1 <;>
      simp only [take?, takeSpelled?, name, Option.bind_some, found]
  rw [read_record, gather, spelled, List.foldlM_map]
  simp only [taken]

/-- Takes a value under a name into a draft. -/
def takeNamed? (shape : Shape Written Option δ α) (draft : δ) (member : String × Value) :
    Option δ :=
  match shape.field? member.1 with
  | none => some draft
  | some field => if field.isSet draft then none else field.read member.2.written draft

/-- A printed record is read as the value of the draft of its members. -/
theorem read_written (shape : Shape Written Option δ α) (members : List (String × Value)) :
    shape.read (Value.record members).written =
      (members.foldlM shape.takeNamed? shape.empty).bind fun draft =>
        (shape.finish draft).toOption := by
  have written : (Value.record members).written =
      .record (spelled (members.map fun member => (member.1, member.2.written))) := by
    rw [Value.written, Value.writtenMembers_eq, spelled, List.map_map]
    rfl
  rw [written, read_spelled, List.foldlM_map]
  rfl

/-- A member that may be absent is taken where it is present. -/
theorem foldlM_member? (shape : Shape Written Option δ α) (key : String) (value : Option Value)
    (draft : δ) : (Value.member? key value).foldlM shape.takeNamed? draft =
      match value with
      | none => some draft
      | some value => shape.takeNamed? draft (key, value) := by
  cases value with
  | none => rfl
  | some value => simp [Value.member?]

end Shape

end Document

end SchemaPress
