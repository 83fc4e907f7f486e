import SchemaPress.Json.Quotation
import SchemaPress.Json.Token

/-!
# JSON as it is written

A value of JSON can be written in many ways: with blanks between its tokens, with escapes in its
texts, with its members in any order. `Written` is the syntax tree of one such way, without the
blanks; a tree can only be built from well-formed parts, so each tree is a value that JSON allows.
`Written.lexemes` are its tokens in order, and `Laid lexemes cs` says that a row of characters is
those tokens with some blanks before, between and behind them.

The grammar is stated without the reader: a text is a row of glyphs, and `Glyph.text?` is what the
glyphs stand for, which is nothing where a surrogate has no partner.
-/

set_option autoImplicit false

namespace SchemaPress.Json

/-! ## Texts -/

/-- The letters that may stand behind a backslash. -/
def escapeLetters : List Char := ['"', '\\', '/', 'b', 'f', 'n', 'r', 't']

def isHexDigit (c : Char) : Bool :=
  ('0' ≤ c && c ≤ '9') || ('a' ≤ c && c ≤ 'f') || ('A' ≤ c && c ≤ 'F')

/-- A piece of a text as it is written. -/
inductive Glyph where
  /-- A character that stands for itself. -/
  | plain (c : Char) (allowed : 32 ≤ c.toNat ∧ c ≠ '"' ∧ c ≠ '\\')
  /-- A letter behind a backslash. -/
  | escape (letter : Char) (allowed : letter ∈ escapeLetters)
  /-- Four hexadecimal digits behind a backslash and the letter u. -/
  | unit (a b c d : Char) (allowed : ∀ digit ∈ [a, b, c, d], isHexDigit digit)

namespace Glyph

/-- The characters of a glyph. -/
def chars : Glyph → List Char
  | plain c _ => [c]
  | escape letter _ => ['\\', letter]
  | unit a b c d _ => ['\\', 'u', a, b, c, d]

/-- The piece of a text that a glyph is scanned as. -/
def piece : Glyph → Piece
  | plain c _ => .plain c
  | escape letter _ => .escaped ((Quotation.escapee? letter).getD letter)
  | unit a b c d _ => .unit ((Quotation.codeUnit? a b c d).getD 0)

/-- The characters that some pieces stand for. Two code units, a leading and a trailing surrogate,
are one character; either of them alone is none. -/
def decoded? : List Piece → Option (List Char)
  | [] => some []
  | .plain c :: pieces => (decoded? pieces).map (c :: ·)
  | .escaped c :: pieces => (decoded? pieces).map (c :: ·)
  | .unit code :: pieces =>
    if Quotation.isTrailing code then none
    else if Quotation.isLeading code then
      match pieces with
      | .unit second :: pieces =>
        if Quotation.isTrailing second then
          (decoded? pieces).map
            (Char.ofNat (0x10000 + (code - 0xD800) * 0x400 + (second - 0xDC00)) :: ·)
        else none
      | _ => none
    else (decoded? pieces).map (Char.ofNat code :: ·)

/-- The text that some glyphs stand for, if they stand for one. -/
def text? (glyphs : List Glyph) : Option String :=
  (decoded? (glyphs.map piece)).map String.ofList

end Glyph

/-! ## Numbers -/

/-- A row of at least one digit. -/
structure Digits where
  chars : List Char
  nonempty : chars ≠ []
  digits : ∀ c ∈ chars, c.isDigit

/-- The exponent of a number as it is written. -/
structure Exponent where
  /-- Whether its letter is a capital one. -/
  capital : Bool
  /-- Whether its sign, if it has one, is a minus sign. -/
  sign : Option Bool
  size : Digits

namespace Exponent

/-- The letter that begins an exponent. -/
def letter (exponent : Exponent) : Char :=
  if exponent.capital then 'E' else 'e'

/-- An exponent begins with one of two letters. -/
theorem letter_eq (exponent : Exponent) : exponent.letter = 'e' ∨ exponent.letter = 'E' := by
  unfold letter
  split
  · exact .inr rfl
  · exact .inl rfl

/-- The sign of an exponent. -/
def signChars (exponent : Exponent) : List Char :=
  match exponent.sign with
  | none => []
  | some false => ['+']
  | some true => ['-']

/-- The characters of an exponent. -/
def chars (exponent : Exponent) : List Char :=
  exponent.letter :: (exponent.signChars ++ exponent.size.chars)

end Exponent

/-- A number as it is written. Its whole part begins with a zero only if it is just that. -/
structure WrittenNumber where
  negative : Bool
  whole : Digits
  lead : whole.chars.head? = some '0' → whole.chars = ['0']
  fraction : Option Digits
  exponent : Option Exponent

namespace WrittenNumber

/-- The characters of the sign of a number. -/
def signChars (number : WrittenNumber) : List Char :=
  if number.negative then ['-'] else []

/-- The fraction of a number, with its point. -/
def fractionChars (number : WrittenNumber) : List Char :=
  match number.fraction with
  | none => []
  | some digits => '.' :: digits.chars

/-- The characters of the exponent of a number, if it has one. -/
def exponentChars (number : WrittenNumber) : List Char :=
  match number.exponent with
  | none => []
  | some exponent => exponent.chars

/-- The characters of a number. -/
def chars (number : WrittenNumber) : List Char :=
  number.signChars ++ number.whole.chars ++ number.fractionChars ++ number.exponentChars

/-- A number as the reader takes it apart. -/
def numeral (number : WrittenNumber) : Numeral where
  negative := number.negative
  whole := number.whole.chars
  fraction := number.fraction.map Digits.chars
  exponent := number.exponent.map fun exponent => (exponent.sign.getD false, exponent.size.chars)

end WrittenNumber

/-! ## Values -/

/-- A JSON value as it is written, without its blanks. -/
inductive Written where
  | null
  | flag (value : Bool)
  | number (number : WrittenNumber)
  | text (glyphs : List Glyph)
  | list (items : List Written)
  | record (members : List (List Glyph × Written))
  deriving Inhabited

/-- A token as it is written. -/
inductive Lexeme where
  | listOpen
  | listClose
  | recordOpen
  | recordClose
  | comma
  | colon
  | null
  | flag (value : Bool)
  | number (number : WrittenNumber)
  | text (glyphs : List Glyph)

namespace Lexeme

/-- The characters of a token. -/
def chars : Lexeme → List Char
  | listOpen => ['[']
  | listClose => [']']
  | recordOpen => ['\x7b']
  | recordClose => ['\x7d']
  | comma => [',']
  | colon => [':']
  | null => "null".toList
  | flag value => if value then "true".toList else "false".toList
  | number written => written.chars
  | text glyphs => '"' :: (glyphs.flatMap Glyph.chars ++ ['"'])

/-- Says whether a lexeme is a bracket, a comma or a colon. -/
def isPunctuation : Lexeme → Bool
  | listOpen | listClose | recordOpen | recordClose | comma | colon => true
  | _ => false

/-- Parts with a comma between any two of them. -/
def separated : List (List Lexeme) → List Lexeme
  | [] => []
  | part :: parts => part ++ parts.flatMap (comma :: ·)

end Lexeme

namespace Written

mutual

/-- The tokens of a value. -/
def lexemes : Written → List Lexeme
  | null => [.null]
  | flag value => [.flag value]
  | number written => [.number written]
  | text glyphs => [.text glyphs]
  | list items => .listOpen :: (Lexeme.separated (itemLexemes items) ++ [.listClose])
  | record members => .recordOpen :: (Lexeme.separated (memberLexemes members) ++ [.recordClose])

/-- The lexemes of each item of a list. -/
def itemLexemes : List Written → List (List Lexeme)
  | [] => []
  | item :: items => lexemes item :: itemLexemes items

/-- The lexemes of each member of a record. -/
def memberLexemes : List (List Glyph × Written) → List (List Lexeme)
  | [] => []
  | (key, value) :: members => (.text key :: .colon :: lexemes value) :: memberLexemes members

end

/-- The names of the members of a record, as far as they stand for a text. -/
def keys (members : List (List Glyph × Written)) : List String :=
  members.filterMap fun member => Glyph.text? member.1

end Written

/-! ## Layout -/

/-- Says that all characters are blanks of JSON. -/
def Blanks (cs : List Char) : Prop :=
  ∀ c ∈ cs, Token.isBlank c

/-- Says that some characters are some tokens, with blanks before, between and behind them. -/
inductive Laid : List Lexeme → List Char → Prop where
  | ending {blanks : List Char} (allowed : Blanks blanks) : Laid [] blanks
  | token {lexeme : Lexeme} {lexemes : List Lexeme} {blanks rest : List Char}
      (allowed : Blanks blanks) (more : Laid lexemes rest) :
      Laid (lexeme :: lexemes) (blanks ++ (lexeme.chars ++ rest))

namespace Laid

/-- Blanks in front of a layout belong to it. -/
theorem prepend {lexemes : List Lexeme} {blanks cs : List Char} (allowed : Blanks blanks)
    (laid : Laid lexemes cs) : Laid lexemes (blanks ++ cs) := by
  have both {more : List Char} (h : Blanks more) : Blanks (blanks ++ more) := by
    intro c hc
    rcases List.mem_append.mp hc with hc | hc
    · exact allowed c hc
    · exact h c hc
  cases laid with
  | ending h => exact .ending (both h)
  | token h more =>
    rw [← List.append_assoc]
    exact .token (both h) more

/-- Two layouts one behind the other are a layout of all the tokens. -/
theorem append {first second : List Lexeme} {cs ds : List Char} (laid : Laid first cs)
    (more : Laid second ds) : Laid (first ++ second) (cs ++ ds) := by
  induction laid with
  | ending h => exact prepend h more
  | token h _ ih =>
    rw [List.append_assoc, List.append_assoc]
    exact .token h ih

/-- A token without any blanks is a layout of itself. -/
theorem single (lexeme : Lexeme) : Laid [lexeme] lexeme.chars := by
  have none : Blanks [] := fun c hc => absurd hc List.not_mem_nil
  simpa using @Laid.token lexeme [] [] [] none (.ending none)

end Laid

end SchemaPress.Json
