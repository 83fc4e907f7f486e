import SchemaPress.Json.Fault

/-!
# Texts in JSON

A text is written as a row of pieces between quotes: characters that stand for themselves,
characters behind a backslash, and code units of four hexadecimal digits. Two code units, a
leading and a trailing surrogate, make one character together. A text that is not read needs no
pairing of surrogates, so only its pieces are checked then.
-/

set_option autoImplicit false

namespace SchemaPress.Json

/-- What a piece of a text stands for. -/
inductive Piece where
  /-- A character that stands for itself. -/
  | plain (c : Char)
  /-- A character behind a backslash. -/
  | escaped (c : Char)
  /-- A code unit behind a backslash and the letter u. -/
  | unit (code : Nat)
  deriving DecidableEq, Repr, Inhabited

/-- A piece between two places. -/
structure PlacedPiece where
  before : Text.Place
  piece : Piece
  after : Text.Place
  deriving DecidableEq, Repr, Inhabited

/-- A row of pieces up to the closing quote or to a fault. -/
structure Quotation where
  pieces : List PlacedPiece
  /-- The place behind the closing quote. -/
  ending : Except Malformed Text.Place
  deriving Repr

namespace Quotation

def push (piece : PlacedPiece) (quotation : Quotation) : Quotation :=
  { quotation with pieces := piece :: quotation.pieces }

/-- The value of a hexadecimal digit. -/
def hexDigit? (c : Char) : Option Nat :=
  if '0' ≤ c ∧ c ≤ '9' then some (c.toNat - '0'.toNat)
  else if 'a' ≤ c ∧ c ≤ 'f' then some (c.toNat - 'a'.toNat + 10)
  else if 'A' ≤ c ∧ c ≤ 'F' then some (c.toNat - 'A'.toNat + 10)
  else none

def codeUnit? (a b c d : Char) : Option Nat := do
  return ((16 * (← hexDigit? a) + (← hexDigit? b)) * 16 + (← hexDigit? c)) * 16 + (← hexDigit? d)

/-- The character that a letter behind a backslash stands for. -/
def escapee? : Char → Option Char
  | '"' => some '"'
  | '\\' => some '\\'
  | '/' => some '/'
  | 'b' => some '\x08'
  | 'f' => some '\x0c'
  | 'n' => some '\n'
  | 'r' => some '\r'
  | 't' => some '\t'
  | _ => none

/-- The bytes of a text in UTF-8. -/
def byteCount (cs : List Char) : Nat :=
  cs.foldl (fun count c => count + c.utf8Size) 0

/-- Four bytes that are no hexadecimal digits, or a text that ends before them. -/
def badUnit (place : Text.Place) (rest : List Char) : Malformed :=
  if byteCount rest < 4 then .of .endInText (place.afterAll rest)
  else .of .badCodeUnit (place.afterBytes 4 rest)

/-- A control character in a text. One who skips the text stops in front of it. -/
def control (place : Text.Place) (rest : List Char) : Malformed where
  strict := ⟨.controlCharacter, place.afterByte rest⟩
  loose := ⟨.controlCharacter, place⟩

def broken (malformed : Malformed) : Quotation × List Char :=
  ({ pieces := [], ending := .error malformed }, [])

/-- Reads a text behind its opening quote: its pieces, and what follows its closing quote. -/
def scan (place : Text.Place) : List Char → Quotation × List Char
  | [] => broken (.of .endInText place)
  | '"' :: rest => ({ pieces := [], ending := .ok (place.after '"') }, rest)
  | '\\' :: 'u' :: a :: b :: c :: d :: rest =>
    match codeUnit? a b c d with
    | some code =>
      let past := place.afterAll ['\\', 'u', a, b, c, d]
      let (quotation, rest) := scan past rest
      (quotation.push ⟨place, .unit code, past⟩, rest)
    | none => broken (badUnit (place.afterAll ['\\', 'u']) (a :: b :: c :: d :: rest))
  | '\\' :: 'u' :: rest => broken (badUnit (place.afterAll ['\\', 'u']) rest)
  | '\\' :: c :: rest =>
    match escapee? c with
    | some d =>
      let past := place.afterAll ['\\', c]
      let (quotation, rest) := scan past rest
      (quotation.push ⟨place, .escaped d, past⟩, rest)
    | none => broken (.of .unknownEscape ((place.after '\\').afterByte (c :: rest)))
  | '\\' :: [] => broken (.of .endInText (place.after '\\'))
  | c :: rest =>
    if c.toNat < 32 then broken (control place (c :: rest))
    else
      let past := place.after c
      let (quotation, rest) := scan past rest
      (quotation.push ⟨place, .plain c, past⟩, rest)

/-- The fault of a row of pieces that is skipped. -/
def fault? (quotation : Quotation) : Option Fault :=
  match quotation.ending with
  | .ok _ => none
  | .error malformed => some malformed.loose

/-- Says whether a code unit is a leading surrogate. -/
def isLeading (code : Nat) : Bool :=
  0xD800 ≤ code && code < 0xDC00

/-- Says whether a code unit is a trailing surrogate. -/
def isTrailing (code : Nat) : Bool :=
  0xDC00 ≤ code && code < 0xE000

/-- The fault of a leading surrogate behind which the pieces end. What breaks them off is passed
over as the first byte that is no code unit, unless it is the end of the text or a code unit after
all. -/
def unpaired (ending : Except Fault Text.Place) : Fault :=
  match ending with
  | .ok place => ⟨.surrogateCutShort, place⟩
  | .error fault =>
    if fault.problem = .controlCharacter ∨ fault.problem = .unknownEscape then
      ⟨.surrogateCutShort, fault.place⟩
    else fault

/-- The characters of a row of pieces. -/
def chars (ending : Except Fault Text.Place) : List PlacedPiece → Except Fault (List Char)
  | [] => ending.map fun _ => []
  | ⟨_, .plain c, _⟩ :: pieces => return c :: (← chars ending pieces)
  | ⟨_, .escaped c, _⟩ :: pieces => return c :: (← chars ending pieces)
  | ⟨_, .unit code, after⟩ :: pieces =>
    if isTrailing code then .error ⟨.loneSurrogate, after⟩
    else if isLeading code then
      match pieces with
      | ⟨_, .unit second, after⟩ :: pieces =>
        if isTrailing second then
          return Char.ofNat (0x10000 + (code - 0xD800) * 0x400 + (second - 0xDC00))
            :: (← chars ending pieces)
        else .error ⟨.loneSurrogate, after⟩
      | ⟨before, .plain c, _⟩ :: _ => .error ⟨.surrogateCutShort, before.afterByte [c]⟩
      | ⟨_, .escaped _, after⟩ :: _ => .error ⟨.surrogateCutShort, after⟩
      | [] => .error (unpaired ending)
    else return Char.ofNat code :: (← chars ending pieces)

/-- The text that a row of pieces stands for. -/
def text (quotation : Quotation) : Except Fault String :=
  (chars (quotation.ending.mapError (·.strict)) quotation.pieces).map String.ofList

end Quotation

end SchemaPress.Json
