/-!
# Places in a text

A place counts lines from one and, within a line, the bytes that its UTF-8 form has taken so far.
Complaints about a text end in the place they are about.
-/

set_option autoImplicit false

namespace SchemaPress.Text

/-- A position between two bytes of a text: the line, and the bytes of that line before it. -/
structure Place where
  line : Nat
  column : Nat
  deriving DecidableEq, Repr, Inhabited

namespace Place

/-- The place before the first byte of a text. -/
def start : Place := ⟨1, 0⟩

/-- The place behind a character. -/
def after (place : Place) (c : Char) : Place :=
  if c = '\n' then ⟨place.line + 1, 0⟩ else ⟨place.line, place.column + c.utf8Size⟩

/-- The place behind some characters. -/
def afterAll (place : Place) (cs : List Char) : Place :=
  cs.foldl after place

/-- The place after the first byte of what follows, or the same place at the end of the text. -/
def afterByte (place : Place) : List Char → Place
  | [] => place
  | c :: _ => if c = '\n' then ⟨place.line + 1, 0⟩ else ⟨place.line, place.column + 1⟩

/-- The place after at most `count` bytes of what follows, which may lie inside a character. -/
def afterBytes (place : Place) (count : Nat) : List Char → Place
  | [] => place
  | c :: cs =>
    if c.utf8Size ≤ count then (place.after c).afterBytes (count - c.utf8Size) cs
    else ⟨place.line, place.column + count⟩

/-- The words that end a complaint about a place. -/
def describe (place : Place) : String :=
  s!"line {place.line} column {place.column}"

end Place

end SchemaPress.Text
