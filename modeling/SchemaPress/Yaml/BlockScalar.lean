import SchemaPress.Yaml.Fault
import SchemaPress.Yaml.Gap

/-!
# Block scalars

A block scalar is the lines below its header that are set in far enough. A literal one keeps the
ends of its lines; a folded one turns the end between two lines that begin with a word into a
blank. The header says how far the lines are set in, or else the first line does, and what becomes
of the ends of lines at its end: one is kept, or all of them, or none.
-/

set_option autoImplicit false

namespace SchemaPress.Yaml.BlockScalar

/-- What becomes of the ends of lines at the end of a block scalar. -/
inductive Chomping where
  | clip
  | keep
  | strip
  deriving DecidableEq, Repr, Inhabited

/-- What the header of a block scalar says. -/
structure Header where
  chomping : Chomping := .clip
  /-- How many columns the lines are set in, if it is said. -/
  increment : Option Nat := none
  deriving DecidableEq, Repr, Inhabited

def chomping? : Char → Option Chomping
  | '+' => some .keep
  | '-' => some .strip
  | _ => none

/-- Reads the chomping, if it comes next. -/
def scanChomping (header : Header) (point : Point) : Header × Point :=
  match point.first?.bind chomping? with
  | some chomping => ({ header with chomping }, point.skip)
  | none => (header, point)

/-- Reads how far lines are set in, if it comes next. -/
def scanIncrement (since : Mark) (header : Header) (point : Point) :
    Except SyntaxFault (Header × Point) :=
  match point.first? with
  | some c =>
    if c == '0' then .error (.during .blockScalar since .zeroIndentation point.mark)
    else if c.isDigit then
      .ok ({ header with increment := some (c.toNat - '0'.toNat) }, point.skip)
    else .ok (header, point)
  | none => .ok (header, point)

/-- Reads a header from behind its first character up to the line below it. -/
def scanHeader (since : Mark) (point : Point) : Except SyntaxFault (Header × Point) := do
  let (header, point) ←
    if (point.first?.bind chomping?).isSome then
      let (header, point) := scanChomping {} point
      scanIncrement since header point
    else do
      let (header, point) ← scanIncrement since {} point
      pure (if header.increment.isSome then scanChomping header point else (header, point))
  let point := point.skipBlanks.skipComment
  if !point.nextIsOrEnds isBreak then
    throw (.during .blockScalar since .commentOrBreakExpected point.mark)
  return (header, point.skipBreak)

/-- The point behind the blanks in front of a column, or behind all blanks. -/
def skipIndent (column : Option Nat) : Mark → List Char → Point
  | mark, ' ' :: cs =>
    if column.all (mark.column < ·) then skipIndent column (mark.next ' ') cs else ⟨mark, ' ' :: cs⟩
  | mark, cs => ⟨mark, cs⟩

/-- Empty lines in a block scalar. -/
structure Breaks where
  /-- What the ends of the lines leave. -/
  left : List Char := []
  /-- The largest number of blanks in front of the end of a line or of the line that follows. -/
  widest : Nat := 0
  /-- The mark behind the last end of a line. -/
  past : Mark
  deriving DecidableEq, Repr, Inhabited

/-- Goes over at most `fuel` empty lines to the first character of a line that is not empty, or to
the column at which lines begin, if that is known. -/
def scanBreaks (since : Mark) (column : Option Nat) :
    (fuel : Nat) → Breaks → Point → Except SyntaxFault (Breaks × Point)
  | 0, breaks, point => .ok (breaks, point)
  | fuel + 1, breaks, point =>
    let point := skipIndent column point.mark point.rest
    let breaks := { breaks with widest := max breaks.widest point.mark.column }
    if column.all (point.mark.column < ·) && point.startsWith '\t' then
      .error (.during .blockScalar since .tabInBlock point.mark)
    else if point.nextIs isBreak then
      let next := point.skipBreak
      let left := breaks.left ++ point.keptBreak
      scanBreaks since column fuel { breaks with left, past := next.mark } next
    else .ok (breaks, point)

/-- What has been read of a block scalar. -/
structure Draft where
  text : List Char := []
  /-- What the end of the last line leaves. -/
  lastBreak : List Char := []
  /-- What the ends of the empty lines behind it leave. -/
  emptyLines : List Char := []
  /-- Whether the last line begins with a blank. -/
  indented : Bool := false
  /-- The mark behind the last end of a line. -/
  past : Mark
  deriving DecidableEq, Repr, Inhabited

/-- A draft with one more line, which is not empty. -/
def Draft.addLine (folds : Bool) (draft : Draft) (line : List Char) : Draft :=
  let indented := line.head?.any isBlank
  let between :=
    if folds && draft.lastBreak.head? == some '\n' && !draft.indented && !indented then
      if draft.emptyLines.isEmpty then [' '] else []
    else draft.lastBreak
  { draft with text := draft.text ++ between ++ draft.emptyLines ++ line, indented }

/-- Goes on with a block scalar of at most `fuel` lines that begin at a column. -/
def scanLines (folds : Bool) (since : Mark) (column : Nat) :
    (fuel : Nat) → Draft → Point → Except SyntaxFault (Draft × Point)
  | 0, draft, point => .ok (draft, point)
  | fuel + 1, draft, point =>
    if point.mark.column ≠ column || point.rest.isEmpty then .ok (draft, point)
    else do
      let (line, behind) := point.span (!isBreak ·)
      let next := behind.skipBreak
      let (breaks, next) ←
        scanBreaks since (some column) (next.rest.length + 1) { past := next.mark } next
      let draft := { draft.addLine folds line with
        lastBreak := behind.keptBreak, emptyLines := breaks.left, past := breaks.past }
      scanLines folds since column fuel draft next

def Draft.finished (draft : Draft) : Chomping → List Char
  | .strip => draft.text
  | .clip => draft.text ++ draft.lastBreak
  | .keep => draft.text ++ draft.lastBreak ++ draft.emptyLines

/-- Reads a block scalar from the first character of its header on, inside lines that begin at a
column: its text, the mark behind it and the point where reading goes on. -/
def scan (folds : Bool) (indent : Int) (point : Point) :
    Except SyntaxFault (List Char × Mark × Point) := do
  let since := point.mark
  let (header, point) ← scanHeader since point.skip
  let column := header.increment.map fun increment => (max indent 0).toNat + increment
  let (breaks, next) ←
    scanBreaks since column (point.rest.length + 1) { past := point.mark } point
  let column := column.getD (max (max breaks.widest (indent + 1).toNat) 1)
  let (draft, next) ← scanLines folds since column (next.rest.length + 1)
    { emptyLines := breaks.left, past := breaks.past } next
  return (draft.finished header.chomping, draft.past, next)

end SchemaPress.Yaml.BlockScalar
