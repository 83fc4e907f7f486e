import SchemaPress.Yaml.Mark

/-!
# Gaps between words

A gap is the blanks and ends of lines between two words of a text. Within a line it is kept as it
stands. Otherwise the blanks go; one end of a line becomes a blank, and of several the first goes.
-/

set_option autoImplicit false

namespace SchemaPress.Yaml

/-- A gap between two words. -/
structure Gap where
  /-- The blanks in front of the first end of a line. -/
  blanks : List Char := []
  /-- What the first end of a line leaves and what the others leave, if there are any. -/
  breaks : Option (List Char × List Char) := none
  deriving DecidableEq, Repr, Inhabited

namespace Gap

/-- The gap behind an end of a line that leaves nothing. -/
def escapedBreak : Gap := ⟨[], some ([], [])⟩

/-- Says whether a gap goes over an end of a line. -/
def crossesLine (gap : Gap) : Bool :=
  gap.breaks.isSome

/-- What an end of a line and more of them leave between two words. -/
def folded (first others : List Char) : List Char :=
  if first = ['\n'] then if others.isEmpty then [' '] else others else first ++ others

/-- What a gap leaves between two words. -/
def text (gap : Gap) : List Char :=
  match gap.breaks with
  | none => gap.blanks
  | some (first, others) => folded first others

/-- A gap with one more blank; behind an end of a line a blank does not count. -/
def addBlank (gap : Gap) (c : Char) : Gap :=
  if gap.crossesLine then gap else { gap with blanks := gap.blanks ++ [c] }

/-- A gap with one more end of a line. -/
def addBreak (gap : Gap) (left : Char) : Gap :=
  match gap.breaks with
  | none => { gap with breaks := some ([left], []) }
  | some (first, others) => { gap with breaks := some (first, others ++ [left]) }

/-- Goes on with a gap: the gap and the point behind it, or the mark of a tabulator in front of the
least column behind an end of a line. -/
def scanFrom (least : Nat) : Gap → Mark → List Char → Except Mark (Gap × Point)
  | gap, mark, [] => .ok (gap, ⟨mark, []⟩)
  | gap, mark, '\r' :: '\n' :: cs => scanFrom least (gap.addBreak '\n') (mark.nextLine 2) cs
  | gap, mark, c :: cs =>
    if isBlank c then
      if c = '\t' ∧ gap.crossesLine ∧ mark.column < least then .error mark
      else scanFrom least (gap.addBlank c) (mark.next c) cs
    else if isBreak c then
      scanFrom least (gap.addBreak (breakKept c)) (mark.nextLine c.utf8Size) cs
    else .ok (gap, ⟨mark, c :: cs⟩)

/-- Reads a gap in whose lines no tabulator may stand in front of the least column. -/
def scan (least : Nat) (point : Point) : Except Mark (Gap × Point) :=
  scanFrom least {} point.mark point.rest

end Gap

end SchemaPress.Yaml
