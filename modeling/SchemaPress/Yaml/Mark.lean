/-!
# Marks in a YAML text

A mark counts the bytes in front of it, the lines in front of its line and the characters in front
of it on that line. A point is a mark with the text that follows it. A line ends with a
carriage return, a line feed, both together, or one of three other characters of Unicode.
-/

set_option autoImplicit false

namespace SchemaPress.Yaml

/-- Where a character stands. -/
structure Mark where
  index : Nat
  line : Nat
  column : Nat
  deriving DecidableEq, Repr, Inhabited

namespace Mark

def start : Mark := ⟨0, 0, 0⟩

/-- The mark behind a character that ends no line. -/
def next (mark : Mark) (c : Char) : Mark :=
  ⟨mark.index + c.utf8Size, mark.line, mark.column + 1⟩

/-- The mark behind some bytes that end one line. -/
def nextLine (mark : Mark) (size : Nat) : Mark :=
  ⟨mark.index + size, mark.line + 1, 0⟩

/-- Says whether a mark stands at the very start of a line and of the lines. -/
def isFirst (mark : Mark) : Bool :=
  mark.line == 0 && mark.column == 0

/-- Says whether two marks are shown in the same place. -/
def samePlace (mark other : Mark) : Bool :=
  mark.line == other.line && mark.column == other.column

/-- The words for a mark; lines and columns count from one. -/
def describe (mark : Mark) : String :=
  s!"line {mark.line + 1} column {mark.column + 1}"

end Mark

def isBlank (c : Char) : Bool :=
  c == ' ' || c == '\t'

def isBreak (c : Char) : Bool :=
  c == '\r' || c == '\n' || c == '\u0085' || c == '\u2028' || c == '\u2029'

def isSpacing (c : Char) : Bool :=
  isBlank c || isBreak c

/-- What the end of a line leaves in a text: a line feed, unless it is a separator of its own. -/
def breakKept (c : Char) : Char :=
  if c == '\u2028' || c == '\u2029' then c else '\n'

/-- Says whether a character may stand in the name of an anchor. -/
def isNameChar (c : Char) : Bool :=
  c.isAlphanum || c == '_' || c == '-'

/-- A mark and the text behind it. -/
structure Point where
  mark : Mark
  rest : List Char
  deriving DecidableEq, Repr, Inhabited

namespace Point

def first? (point : Point) : Option Char :=
  point.rest.head?

def second? (point : Point) : Option Char :=
  point.rest.tail.head?

def startsWith (point : Point) (c : Char) : Bool :=
  point.rest.head? == some c

/-- Says whether the next character is of some kind. -/
def nextIs (point : Point) (kind : Char → Bool) : Bool :=
  point.rest.head?.any kind

/-- Says whether the text goes on with a character of some kind, or is at its end. -/
def nextIsOrEnds (point : Point) (kind : Char → Bool) : Bool :=
  point.rest.head?.all kind

/-- Says whether behind the next character there is one of some kind, or nothing. -/
def secondIsOrEnds (point : Point) (kind : Char → Bool) : Bool :=
  point.rest.tail.head?.all kind

/-- The point behind the next character, which ends no line. -/
def skip (point : Point) : Point :=
  match point.rest with
  | [] => point
  | c :: cs => ⟨point.mark.next c, cs⟩

/-- The point behind some characters, none of which ends a line. -/
def skipMany (point : Point) : Nat → Point
  | 0 => point
  | count + 1 => point.skip.skipMany count

/-- The point behind the end of a line, if that comes next. -/
def skipBreak (point : Point) : Point :=
  match point.rest with
  | '\r' :: '\n' :: cs => ⟨point.mark.nextLine 2, cs⟩
  | c :: cs => if isBreak c then ⟨point.mark.nextLine c.utf8Size, cs⟩ else point
  | [] => point

/-- What the end of a line leaves in a text, if that comes next. -/
def keptBreak (point : Point) : List Char :=
  match point.rest with
  | '\r' :: '\n' :: _ => ['\n']
  | c :: _ => if isBreak c then [breakKept c] else []
  | [] => []

/-- Splits a text behind the characters of some kind at its start, none of which ends a line. -/
def spanFrom (kind : Char → Bool) : Mark → List Char → List Char × Point
  | mark, [] => ([], ⟨mark, []⟩)
  | mark, c :: cs =>
    if kind c then
      let (taken, point) := spanFrom kind (mark.next c) cs
      (c :: taken, point)
    else ([], ⟨mark, c :: cs⟩)

/-- The characters of some kind that come next, and the point behind them. -/
def span (point : Point) (kind : Char → Bool) : List Char × Point :=
  spanFrom kind point.mark point.rest

def skipWhile (point : Point) (kind : Char → Bool) : Point :=
  (point.span kind).2

def skipBlanks (point : Point) : Point :=
  point.skipWhile isBlank

/-- The point at the end of the line, if a comment comes next. -/
def skipComment (point : Point) : Point :=
  if point.startsWith '#' then point.skipWhile (!isBreak ·) else point

/-- Says whether three times the same character comes next, and then a gap or the end. -/
def startsWithThree (point : Point) (c : Char) : Bool :=
  match point.rest with
  | first :: second :: third :: rest =>
    first == c && second == c && third == c && rest.head?.all isSpacing
  | _ => false

/-- Says whether a line starts with the mark between documents or the mark behind one. -/
def atDocumentMark (point : Point) : Bool :=
  point.mark.column == 0 && (point.startsWithThree '-' || point.startsWithThree '.')

end Point

end SchemaPress.Yaml
