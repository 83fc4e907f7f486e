import SchemaPress.Text.Join

/-!
# Paths

A path is a text of parts between slashes. A part that is empty or a single point leads nowhere
else; such parts at the end of a path count neither for its last name nor for the directory around
it.
-/

set_option autoImplicit false

namespace SchemaPress.Files

/-- The parts of a path between its slashes. -/
def parts (path : String) : List (List Char) :=
  Text.cutAt '/' path.toList

/-- The parts of a path of a file. No file has a path that ends in a slash, so in such a path an
idle part stands for the last name. -/
def fileParts (path : String) : List (List Char) :=
  match (parts path).reverse with
  | [] :: around => (['.'] :: (around.dropWhile List.isEmpty).tail).reverse
  | backwards => backwards.reverse

/-- Says whether a part of a path leads nowhere else. -/
def isIdle (part : List Char) : Bool :=
  part.isEmpty || part == ['.']

/-- The parts without those at the end that lead nowhere. -/
def trimmed (parts : List (List Char)) : List (List Char) :=
  (parts.reverse.dropWhile isIdle).reverse

/-- The path of a first part and the parts behind it. -/
def ofParts (first : List Char) (rest : List (List Char)) : String :=
  if first.isEmpty && rest.isEmpty then "/"
  else Text.joined "/" ((first :: rest).map String.ofList)

/-- The path of the directory around what a path names. A single name has the empty path around it;
the root and the empty path have nothing around them. -/
def parent? (path : String) : Option String :=
  match parts path with
  | [] => none
  | first :: rest =>
    match trimmed rest with
    | [] => if first.isEmpty then none else some ""
    | part :: more => some (ofParts first (trimmed (part :: more).dropLast))

/-- The name of what a path leads to, unless the path ends in a step up or names nothing. -/
def name? (path : String) : Option (List Char) :=
  match parts path with
  | [] => none
  | first :: rest =>
    ((first :: trimmed rest).getLast?).filter fun part => !isIdle part && part != ['.', '.']

/-- What stands in a name behind its last point; a point in front of a name does not count. -/
def extensionOf? (name : List Char) : Option (List Char) :=
  let backwards := name.reverse
  match backwards.dropWhile (· ≠ '.') with
  | [] | [_] => none
  | _ => some (backwards.takeWhile (· ≠ '.')).reverse

/-- The extension of the name that a path leads to. -/
def extension? (path : String) : Option String :=
  ((name? path).bind extensionOf?).map String.ofList

/-- The path of a name inside a directory. -/
def inside (directory name : String) : String :=
  if directory.isEmpty || directory.endsWith "/" then directory ++ name
  else directory ++ "/" ++ name

/-- A path and at most `fuel` paths of directories around it, from the inside out, without the root
and the empty path. -/
def ancestorsUpTo : (fuel : Nat) → String → List String
  | 0, _ => []
  | fuel + 1, path =>
    match parent? path with
    | none => []
    | some around => path :: ancestorsUpTo fuel around

/-- A path and the paths of the directories around it, from the inside out, without the root and the
empty path. Every step takes at least one part away. -/
def ancestors (path : String) : List String :=
  ancestorsUpTo (parts path).length path

example : parent? "a/b.json" = some "a" ∧ parent? "./x/." = some "." ∧ parent? "/" = none := by
  decide +kernel

example : extension? "a.b/c.json/" = some "json" ∧ extension? "d/.json" = none := by
  decide +kernel

example : ancestors "./y/.." = ["./y/..", "./y", "."] := by decide +kernel

end SchemaPress.Files
