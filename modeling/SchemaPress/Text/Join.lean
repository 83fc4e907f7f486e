/-!
# Joining, splitting and padding

Texts joined by a separator, texts cut at a character, lines counted, a part looked for in a text,
and texts padded to a width.
-/

set_option autoImplicit false

namespace SchemaPress.Text

/-- The texts one right behind another. -/
def concatenated : List String → String
  | [] => ""
  | text :: rest => text ++ concatenated rest

/-- The texts one after another, with the separator between any two of them. -/
def joined (separator : String) : List String → String
  | [] => ""
  | [text] => text
  | text :: rest => text ++ separator ++ joined separator rest

/-- The pieces of a text between the occurrences of a character. -/
def cutAt (mark : Char) : List Char → List (List Char)
  | [] => [[]]
  | c :: cs =>
    if c = mark then [] :: cutAt mark cs
    else
      match cutAt mark cs with
      | [] => [[c]]
      | piece :: pieces => (c :: piece) :: pieces

/-- Says whether a part stands somewhere in a text. -/
def holds (part : List Char) : List Char → Bool
  | [] => part.isEmpty
  | c :: cs => part.isPrefixOf (c :: cs) || holds part cs

/-- The number of lines of a text: one more than it has line feeds. -/
def lineCount (text : String) : Nat :=
  text.toList.count '\n' + 1

/-- A text followed by as many blanks as it lacks of `width` characters. -/
def padRight (width : Nat) (text : String) : String :=
  text ++ String.ofList (List.replicate (width - text.length) ' ')

end SchemaPress.Text
