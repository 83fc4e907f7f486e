import SchemaPress.Json.Numeral
import SchemaPress.Json.Quotation

/-!
# Tokens of JSON

A text is cut into tokens, each between two places. A number or a text keeps two outcomes: the one
for a reader who wants its value, and the one for a reader who passes over it. The row of tokens
ends with the end of the text, or with the first token behind which nothing can be read.
-/

set_option autoImplicit false

namespace SchemaPress.Json

/-- A token that holds a value. -/
inductive Leaf where
  | null
  | flag (value : Bool)
  /-- A number: its value or the fault of reading it, and the fault of passing over it. -/
  | number (value : Except Fault Number) (form : Option Fault)
  /-- A text: its value or the fault of reading it, and the fault of passing over it. -/
  | text (value : Except Fault String) (form : Option Fault)
  /-- A word that begins like another. -/
  | misspelt (word : String) (fault : Fault)
  deriving Inhabited

namespace Leaf

/-- The fault of passing over a leaf. -/
def form? : Leaf → Option Fault
  | null | flag _ => none
  | number _ form => form
  | text _ form => form
  | misspelt _ fault => some fault

end Leaf

/-- What a token is. -/
inductive Sign where
  | listOpen
  | listClose
  | recordOpen
  | recordClose
  | comma
  | colon
  | leaf (leaf : Leaf)
  /-- A character that begins no token. -/
  | stray
  /-- The end of the text. -/
  | ending
  deriving Inhabited

/-- A token between two places. -/
structure Token where
  before : Text.Place
  sign : Sign
  after : Text.Place
  deriving Inhabited

namespace Token

/-- The place behind the first byte of a token; the end of the text has no bytes. -/
def firstByte (token : Token) : Text.Place :=
  match token.sign with
  | .ending => token.before
  | _ => ⟨token.before.line, token.before.column + 1⟩

def isBlank (c : Char) : Bool :=
  c == ' ' || c == '\t' || c == '\n' || c == '\r'

/-- The token of one character. -/
def punctuation? : Char → Option Sign
  | '[' => some .listOpen
  | ']' => some .listClose
  | '\x7b' => some .recordOpen
  | '\x7d' => some .recordClose
  | ',' => some .comma
  | ':' => some .colon
  | _ => none

/-- Reads the letters of a word: what follows it and where, or the fault of another letter. -/
def scanLetters (place : Text.Place) : List Char → List Char →
    Except Fault (Text.Place × List Char)
  | [], cs => .ok (place, cs)
  | _ :: _, [] => .error ⟨.endInValue, place⟩
  | letter :: letters, c :: cs =>
    if c = letter then scanLetters (place.after c) letters cs
    else .error ⟨.literalMisspelt, place.afterByte (c :: cs)⟩

/-- A leaf, the place behind it and what follows it. -/
abbrev Scanned := Leaf × Text.Place × List Char

def scanWord (word : String) (leaf : Leaf) (place : Text.Place) (cs : List Char) : Scanned :=
  match scanLetters place word.toList cs with
  | .ok (past, rest) => (leaf, past, rest)
  | .error fault => (.misspelt word fault, fault.place, [])

/-- Reads a number. -/
def scanNumber (place : Text.Place) (cs : List Char) : Scanned :=
  match Numeral.scan place cs with
  | .ok (numeral, past, rest) => (.number (numeral.value past) none, past, rest)
  | .error malformed =>
    (.number (.error malformed.strict) (some malformed.loose), malformed.loose.place, [])

/-- Reads a text behind its opening quote. -/
def scanText (place : Text.Place) (cs : List Char) : Scanned :=
  let (quotation, rest) := Quotation.scan place cs
  let past := match quotation.ending with
    | .ok past => past
    | .error malformed => malformed.loose.place
  (.text quotation.text quotation.fault?, past, rest)

/-- Reads a leaf, if a text begins like one. -/
def scanLeaf? (place : Text.Place) : List Char → Option Scanned
  | [] => none
  | c :: rest =>
    if c = '"' then some (scanText (place.after c) rest)
    else if c = 'n' then some (scanWord "null" .null place (c :: rest))
    else if c = 't' then some (scanWord "true" (.flag true) place (c :: rest))
    else if c = 'f' then some (scanWord "false" (.flag false) place (c :: rest))
    else if c = '-' ∨ c.isDigit then some (scanNumber place (c :: rest))
    else none

/-- The tokens of a text, of which there are no more than `fuel`. -/
def scanUpTo : (fuel : Nat) → Text.Place → List Char → List Token
  | 0, _, _ => []
  | fuel + 1, place, cs =>
    let here := place.afterAll (cs.takeWhile isBlank)
    match cs.dropWhile isBlank with
    | [] => [⟨here, .ending, here⟩]
    | c :: rest =>
      match punctuation? c with
      | some sign => ⟨here, sign, here.after c⟩ :: scanUpTo fuel (here.after c) rest
      | none =>
        match scanLeaf? here (c :: rest) with
        | none => [⟨here, .stray, here.after c⟩]
        | some (leaf, past, rest) =>
          ⟨here, .leaf leaf, past⟩ :: if leaf.form?.isSome then [] else scanUpTo fuel past rest

/-- The tokens of a text. Every token takes a character, and the end of the text one step more. -/
def scan (cs : List Char) : List Token :=
  scanUpTo (cs.length + 1) Text.Place.start cs

end Token

end SchemaPress.Json
