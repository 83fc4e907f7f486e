import SchemaPress.Yaml.Fault
import SchemaPress.Yaml.QuotedScalar

/-!
# Tags

A tag says of what kind a part of a document is. It is written whole between `!<` and `>`, or as a
handle and a suffix; what the handle stands for comes before the suffix then. Any octet of a tag
may be written as a percent sign with two hexadecimal digits; octets that are no character make a
tag that has no text. What follows the character zero does not count.
-/

set_option autoImplicit false

namespace SchemaPress.Yaml

/-- A tag: its characters, with nothing where it has octets that are no character. -/
structure Tag where
  units : List (Option Char)
  deriving DecidableEq, Repr, Inhabited

namespace Tag

/-- A tag as it is written. A tag that is written whole has an empty handle. -/
structure Written where
  handle : List Char
  suffix : Tag
  deriving DecidableEq, Repr, Inhabited

def ofString (text : String) : Tag := ⟨text.toList.map some⟩

def text? (tag : Tag) : Option String :=
  (tag.units.mapM id).map String.ofList

def append (first second : Tag) : Tag := ⟨first.units ++ second.units⟩

/-- The tag of a kind of values that every document knows. -/
def standard (kind : String) : Tag := ofString ("tag:yaml.org,2002:" ++ kind)

/-- Says whether a tag is of the document's own. -/
def isLocal (tag : Tag) : Bool :=
  tag.units.head? == some (some '!')

/-- The word in a tag of the document's own: what follows its exclamation mark, or else the mark. -/
def word? (tag : Tag) : Option String := do
  match (← tag.text?).toList with
  | ['!'] => return "!"
  | '!' :: word => return String.ofList word
  | _ => none

/-- Says whether a character may stand in a tag. -/
def isUriChar (verbatim : Bool) (c : Char) : Bool :=
  isNameChar c || ";/?:@&=+$.%!~*'()".toList.contains c ||
    (verbatim && (c == ',' || c == '[' || c == ']'))

/-- The octet that a text spells at its start with a percent sign and two digits. -/
def octet? : List Char → Option Nat
  | '%' :: high :: low :: _ => do
    return 16 * (← QuotedScalar.digitValue? high) + (← QuotedScalar.digitValue? low)
  | _ => none

/-- The number of octets behind a leading octet, and the bits that it holds itself. -/
def leading? (octet : Nat) : Option (Nat × Nat) :=
  if octet < 0x80 then some (0, octet)
  else if octet < 0xC0 then none
  else if octet < 0xE0 then some (1, octet % 0x20)
  else if octet < 0xF0 then some (2, octet % 0x10)
  else if octet < 0xF8 then some (3, octet % 0x08)
  else none

/-- Reads the octets behind a leading octet: the number that all bits together make, and the point
behind the octets. -/
def scanTrailing (activity : Activity) (since : Mark) :
    (count : Nat) → Nat → Point → Except SyntaxFault (Nat × Point)
  | 0, value, point => .ok (value, point)
  | count + 1, value, point =>
    match octet? point.rest with
    | none => .error (.during activity since .octetExpected point.mark)
    | some octet =>
      if 0x80 ≤ octet ∧ octet < 0xC0 then
        scanTrailing activity since count (0x40 * value + octet % 0x40) (point.skipMany 3)
      else .error (.during activity since .badTrailingOctet point.mark)

/-- The character that a number spelt by some octets stands for. No character is spelt by more
octets than it needs. -/
def spelt? (octets value : Nat) : Option Char :=
  (QuotedScalar.character? value).filter (·.utf8Size == octets)

/-- Reads a character that is written as octets, or octets that are no character. -/
def scanOctets (activity : Activity) (since : Mark) (point : Point) :
    Except SyntaxFault (Option Char × Point) :=
  match octet? point.rest with
  | none => .error (.during activity since .octetExpected point.mark)
  | some octet =>
    match leading? octet with
    | none => .error (.during activity since .badLeadingOctet point.mark)
    | some (count, value) => do
      let (value, point) ← scanTrailing activity since count value (point.skipMany 3)
      return (spelt? (count + 1) value, point)

/-- Reads at most `fuel` characters of a tag. -/
def scanUriUpTo (activity : Activity) (verbatim : Bool) (since : Mark) :
    (fuel : Nat) → Point → Except SyntaxFault (List (Option Char) × Point)
  | 0, point => .ok ([], point)
  | fuel + 1, point =>
    match point.rest with
    | [] => .ok ([], point)
    | c :: _ =>
      if !isUriChar verbatim c then .ok ([], point)
      else do
        let (unit, next) ←
          if c == '%' then scanOctets activity since point else pure (some c, point.skip)
        let (units, past) ← scanUriUpTo activity verbatim since fuel next
        return (unit :: units, past)

def scanUri (activity : Activity) (verbatim : Bool) (since : Mark) (point : Point) :
    Except SyntaxFault (List (Option Char) × Point) :=
  scanUriUpTo activity verbatim since (point.rest.length + 1) point

/-- The tag of some characters, up to the character zero. -/
def ofUnits (units : List (Option Char)) : Tag :=
  ⟨units.takeWhile (· != some '\x00')⟩

def uriMissing (activity : Activity) (since : Mark) (point : Point) : SyntaxFault :=
  .during activity since .uriExpected point.mark

/-- Reads the exclamation mark and the name of a handle, and the exclamation mark behind them if
there is one. -/
def scanHandle (point : Point) : List Char × Point :=
  let (name, past) := point.skip.span isNameChar
  if past.startsWith '!' then ('!' :: name ++ ['!'], past.skip) else ('!' :: name, past)

/-- Says whether what has been read as a handle is one: it ends in an exclamation mark of its own.
-/
def isHandle (handle : List Char) : Bool :=
  2 ≤ handle.length && handle.getLast? == some '!'

/-- Reads a tag that is written whole, from behind its bracket on. -/
def scanVerbatim (since : Mark) (point : Point) : Except SyntaxFault (Written × Point) := do
  let (units, past) ← scanUri .uriOfTag true since point
  if units.isEmpty then throw (uriMissing .uriOfTag since past)
  if !past.startsWith '>' then throw (.during .tag since .closingBracketExpected past.mark)
  return (⟨[], ofUnits units⟩, past.skip)

/-- Reads a tag with a handle and a suffix. A single exclamation mark is a tag of its own. -/
def scanShort (since : Mark) (point : Point) : Except SyntaxFault (Written × Point) := do
  let (handle, behind) := scanHandle point
  let (units, past) ← scanUri .uriOfTag false since behind
  if isHandle handle then
    if units.isEmpty then throw (uriMissing .uriOfTag since past)
    return (⟨handle, ofUnits units⟩, past)
  else
    let suffix := ofUnits (handle.tail.map some ++ units)
    return (if suffix.units.isEmpty then ⟨[], ofString "!"⟩ else ⟨['!'], suffix⟩, past)

/-- Reads a tag, behind which there has to be a gap, or a comma between brackets. -/
def scan (inFlow : Bool) (point : Point) : Except SyntaxFault (Written × Point) := do
  let since := point.mark
  let (tag, past) ←
    if point.second? == some '<' then scanVerbatim since (point.skipMany 2)
    else scanShort since point
  if !past.nextIsOrEnds isSpacing && !(inFlow && past.startsWith ',') then
    throw (.during .tag since .whitespaceOrBreakExpected past.mark)
  return (tag, past)

end Tag

end SchemaPress.Yaml
