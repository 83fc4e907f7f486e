import SchemaPress.Text.Blank

/-!
# Export formats

The five targets of an export, and four ways to name one. A word is the exact name; a choice also
allows one alias; a choice in any case ignores the case of ASCII letters; and a free name also
allows the style names and blanks around it.
-/

set_option autoImplicit false

namespace SchemaPress

/-- A target of an export. -/
inductive Format where
  | postgresql
  | mysql
  | prisma
  | drizzle
  | json
  deriving DecidableEq, Repr, Inhabited

/-- A name that no format has, as it was given. -/
structure UnknownFormat where
  name : String
  deriving DecidableEq, Repr, Inhabited

namespace Format

/-- All formats, in the order in which they are listed and written. -/
def all : List Format := [postgresql, mysql, prisma, drizzle, json]

/-- The format of an export for which none is given. -/
def standard : Format := postgresql

/-- The name of a format. -/
def word : Format → String
  | postgresql => "postgresql"
  | mysql => "mysql"
  | prisma => "prisma"
  | drizzle => "drizzle"
  | json => "json"

/-- What a format's output is written for, as shown beside the output. -/
def label : Format → String
  | postgresql => "PostgreSQL 15+"
  | mysql => "MySQL 8.0+"
  | prisma => "Prisma 5.0+"
  | drizzle => "Drizzle ORM"
  | json => "JSON Schema"

/-- The extension of a file in a format. -/
def extension : Format → String
  | postgresql => "sql"
  | mysql => "sql"
  | prisma => "prisma"
  | drizzle => "ts"
  | json => "json"

/-- The names under which a format can be chosen. -/
def choices : Format → List String
  | postgresql => ["postgresql", "postgres"]
  | format => [format.word]

/-- The names by which a format is known in free text. -/
def names : Format → List String
  | prisma => ["prisma", "prisma-style"]
  | drizzle => ["drizzle", "drizzle-style"]
  | format => format.choices

/-- The format with exactly this name. -/
def ofWord? (word : String) : Option Format :=
  all.find? fun format => format.word == word

/-- The format that can be chosen by this name. -/
def ofChoice? (choice : String) : Option Format :=
  all.find? fun format => format.choices.contains choice

/-- A text with the capital letters of ASCII in lower case. -/
def lowered (text : List Char) : String :=
  String.ofList (text.map Char.toLower)

/-- The format that can be chosen by this name, in any case of ASCII letters. -/
def ofChoiceAnyCase? (choice : String) : Option Format :=
  ofChoice? (lowered choice.toList)

/-- The format known by this name, in any case of ASCII letters and with blanks around it. -/
def ofName? (name : String) : Option Format :=
  let plain := lowered (Text.trim name.toList)
  all.find? fun format => format.names.contains plain

/-- Reads a name as the format known by it. -/
def ofName (name : String) : Except UnknownFormat Format :=
  match ofName? name with
  | some format => .ok format
  | none => .error ⟨name⟩

/-- The complaint about a name that no format has. -/
def unknownName (name : String) : String :=
  s!"unknown export format '{name}' (expected one of: postgresql, mysql, prisma, drizzle, json)"

end Format

end SchemaPress
