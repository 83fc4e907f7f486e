import SchemaPress.Yaml.Fault
import SchemaPress.Yaml.Gap

/-!
# Quoted scalars

Between single quotes a quote is written twice and all else stands for itself. Between double
quotes a backslash begins an escape, and one at the end of a line takes that end away.
-/

set_option autoImplicit false

namespace SchemaPress.Yaml.QuotedScalar

/-- The character that an escape of one letter stands for. -/
def simpleEscape? : Char → Option Char
  | '0' => some '\x00'
  | 'a' => some '\x07'
  | 'b' => some '\x08'
  | 't' | '\t' => some '\t'
  | 'n' => some '\n'
  | 'v' => some '\x0b'
  | 'f' => some '\x0c'
  | 'r' => some '\r'
  | 'e' => some '\x1b'
  | ' ' => some ' '
  | '"' => some '"'
  | '/' => some '/'
  | '\\' => some '\\'
  | 'N' => some '\u0085'
  | '_' => some '\u00a0'
  | 'L' => some '\u2028'
  | 'P' => some '\u2029'
  | _ => none

/-- The number of digits in an escape that gives the number of a character. -/
def escapeWidth? : Char → Option Nat
  | 'x' => some 2
  | 'u' => some 4
  | 'U' => some 8
  | _ => none

/-- The value of a hexadecimal digit. -/
def digitValue? (c : Char) : Option Nat :=
  if '0' ≤ c ∧ c ≤ '9' then some (c.toNat - '0'.toNat)
  else if 'a' ≤ c ∧ c ≤ 'f' then some (c.toNat - 'a'.toNat + 10)
  else if 'A' ≤ c ∧ c ≤ 'F' then some (c.toNat - 'A'.toNat + 10)
  else none

/-- The number that some hexadecimal digits at the start of a text spell. -/
def number? : (width : Nat) → Nat → List Char → Option Nat
  | 0, value, _ => some value
  | _ + 1, _, [] => none
  | width + 1, value, c :: cs => do number? width (16 * value + (← digitValue? c)) cs

/-- The character of a number, if there is one. -/
def character? (number : Nat) : Option Char :=
  if h : number.isValidChar then some (Char.ofNatAux number h) else none

/-- Reads an escape behind its backslash: the character, and the number of characters it takes. -/
def escape (since : Mark) (backslash : Mark) : List Char → Except SyntaxFault (Char × Nat)
  | [] => .error (.during .escapeSequence since .unknownEscape backslash)
  | c :: cs =>
    match simpleEscape? c, escapeWidth? c with
    | some meant, _ => .ok (meant, 1)
    | none, none => .error (.during .escapeSequence since .unknownEscape backslash)
    | none, some width =>
      let digits := (backslash.next '\\').next c
      match number? width 0 cs with
      | none => .error (.during .escapeSequence since .hexadecimalExpected digits)
      | some number =>
        match character? number with
        | none => .error (.during .escapeSequence since .badCodePoint digits)
        | some meant => .ok (meant, width + 1)

/-- Reads a word of at most `fuel` characters between single quotes, and the point behind it. -/
def singleWord : (fuel : Nat) → Point → List Char × Point
  | 0, point => ([], point)
  | fuel + 1, point =>
    match point.rest with
    | '\'' :: '\'' :: _ =>
      let (word, past) := singleWord fuel (point.skipMany 2)
      ('\'' :: word, past)
    | c :: _ =>
      if isSpacing c || c == '\'' then ([], point)
      else
        let (word, past) := singleWord fuel point.skip
        (c :: word, past)
    | [] => ([], point)

/-- Reads a word of at most `fuel` characters between double quotes, and the point behind it. The
word ends behind a backslash that takes away the end of a line. -/
def doubleWord (since : Mark) : (fuel : Nat) → Point → Except SyntaxFault (List Char × Gap × Point)
  | 0, point => .ok ([], {}, point)
  | fuel + 1, point =>
    match point.rest with
    | [] => .ok ([], {}, point)
    | c :: cs =>
      if isSpacing c || c == '"' then .ok ([], {}, point)
      else if c == '\\' then
        if cs.head?.any isBreak then .ok ([], .escapedBreak, point.skip.skipBreak)
        else do
          let (meant, count) ← escape since point.mark cs
          let (word, gap, past) ← doubleWord since fuel (point.skipMany (count + 1))
          return (meant :: word, gap, past)
      else do
        let (word, gap, past) ← doubleWord since fuel point.skip
        return (c :: word, gap, past)

/-- Reads a word between quotes: the word, the gap it begins, and the point behind it. -/
def word (quote : Char) (since : Mark) (point : Point) :
    Except SyntaxFault (List Char × Gap × Point) :=
  if quote == '\'' then
    let (word, past) := singleWord (point.rest.length + 1) point
    .ok (word, {}, past)
  else doubleWord since (point.rest.length + 1) point

/-- Goes on with a quoted scalar of at most `fuel` words: its text and the point behind it. -/
def scanUpTo (quote : Char) (since : Mark) :
    (fuel : Nat) → List Char → Point → Except SyntaxFault (List Char × Point)
  | 0, text, point => .ok (text, point)
  | fuel + 1, text, point =>
    if point.atDocumentMark then
      .error (.during .quotedScalar since .documentMarkInQuotes point.mark)
    else if point.rest.isEmpty then .error (.during .quotedScalar since .endInQuotes point.mark)
    else do
      let (word, gap, behind) ← word quote since point
      if behind.startsWith quote then return (text ++ word, behind.skip)
      match Gap.scanFrom 0 gap behind.mark behind.rest with
      | .error mark => throw (.during .quotedScalar since .tabInPlain mark)
      | .ok (gap, next) => scanUpTo quote since fuel (text ++ word ++ gap.text) next

/-- Reads a quoted scalar from its opening quote on: its text and the point behind it. -/
def scan (quote : Char) (point : Point) : Except SyntaxFault (List Char × Point) :=
  scanUpTo quote point.mark (point.rest.length + 1) [] point.skip

end SchemaPress.Yaml.QuotedScalar
