import SchemaPress.Text.Visible

/-!
# Quoted texts

Two ways to put a text between quotes. In the *doubled* form a quote inside the text is written
twice. In the *escaped* form a backslash stands before a quote and before a backslash. For both
there is a reader of the text behind the opening quote, which gives the text and what follows its
closing quote. The *shown* form is for complaints: every character that cannot be seen is spelt
out.
-/

set_option autoImplicit false

namespace SchemaPress.Text

namespace Doubled

/-- The text with each quote written twice. -/
def body (quote : Char) : List Char → List Char
  | [] => []
  | c :: cs => if c = quote then quote :: quote :: body quote cs else c :: body quote cs

/-- The text between quotes, with each quote inside it written twice. -/
def encode (quote : Char) (cs : List Char) : List Char :=
  quote :: body quote cs ++ [quote]

/-- Reads up to the first quote that stands alone: the text, and what follows that quote. -/
def decodeBody? (quote : Char) : List Char → Option (List Char × List Char)
  | [] => none
  | c :: cs =>
    if c = quote then
      match cs with
      | d :: ds =>
        if d = quote then (decodeBody? quote ds).map fun (text, rest) => (quote :: text, rest)
        else some ([], cs)
      | [] => some ([], [])
    else (decodeBody? quote cs).map fun (text, rest) => (c :: text, rest)

/-- Reads a quoted text: the text, and what follows its closing quote. -/
def decode? (quote : Char) : List Char → Option (List Char × List Char)
  | c :: cs => if c = quote then decodeBody? quote cs else none
  | [] => none

end Doubled

namespace Escaped

/-- The text with a backslash before each quote and each backslash. -/
def body (quote : Char) : List Char → List Char
  | [] => []
  | c :: cs => if c = quote ∨ c = '\\' then '\\' :: c :: body quote cs else c :: body quote cs

/-- The text between quotes, with a backslash before each quote and backslash inside it. -/
def encode (quote : Char) (cs : List Char) : List Char :=
  quote :: body quote cs ++ [quote]

/-- Reads up to the first quote without a backslash before it: the text, and what follows. -/
def decodeBody? (quote : Char) : List Char → Option (List Char × List Char)
  | [] => none
  | c :: cs =>
    if c = quote then some ([], cs)
    else if c = '\\' then
      match cs with
      | d :: ds => (decodeBody? quote ds).map fun (text, rest) => (d :: text, rest)
      | [] => none
    else (decodeBody? quote cs).map fun (text, rest) => (c :: text, rest)

/-- Reads a quoted text: the text, and what follows its closing quote. -/
def decode? (quote : Char) : List Char → Option (List Char × List Char)
  | c :: cs => if c = quote then decodeBody? quote cs else none
  | [] => none

end Escaped

/-- The lower-case hexadecimal digits of a number, without leading zeros. -/
def hexadecimal (n : Nat) : List Char :=
  Nat.toDigits 16 n

/-- A character as it is shown inside a quoted text of a complaint. -/
def shownChar (c : Char) : List Char :=
  if c = '\x00' then ['\\', '0']
  else if c = '\t' then ['\\', 't']
  else if c = '\r' then ['\\', 'r']
  else if c = '\n' then ['\\', 'n']
  else if c = '\\' ∨ c = '"' then ['\\', c]
  else if isVisible c then [c]
  else "\\u\x7b".toList ++ hexadecimal c.toNat ++ "\x7d".toList

/-- A text as it is shown in a complaint: between double quotes, with all of it visible. -/
def shown (text : String) : String :=
  String.ofList ('"' :: text.toList.flatMap shownChar ++ ['"'])

example : shown "a\"b\n" = "\"a\\\"b\\n\"" := by decide +kernel

end SchemaPress.Text
