import SchemaPress.Files.Basic

/-!
# Trees of files

A tree of files as a value: what there is at each place, a place being the names of the
directories around it and its own name. A path is followed name by name from the root; on the way
there have to be directories, and only its last name may be new. A step up at the root stays
there.
-/

set_option autoImplicit false

namespace SchemaPress

/-- What there can be at a place of a tree. -/
inductive FileTree.Entry where
  | directory
  | text (content : String)
  /-- A file whose bytes are no text. -/
  | binary (bytes : List UInt8)
  deriving DecidableEq, Repr, Inhabited

/-- The names of the directories around a place, from the outside in, and its own name. -/
abbrev FileTree.Spot := List (List Char)

/-- A tree of files: its places below the root, in the order in which they were made. -/
structure FileTree where
  entries : List (FileTree.Spot × FileTree.Entry) := []
  deriving DecidableEq, Repr, Inhabited

namespace FileTree

/-- The file that some bytes make. -/
def Entry.ofBytes (bytes : ByteArray) : Entry :=
  match String.fromUTF8? bytes with
  | some content => text content
  | none => binary bytes.toList

/-- What stands at a spot; the root is a directory. -/
def find? (tree : FileTree) (spot : Spot) : Option Entry :=
  if spot.isEmpty then some .directory else tree.entries.lookup spot

/-- Puts an entry in the place of another one, or behind all. -/
def replaced (spot : Spot) (entry : Entry) : List (Spot × Entry) → List (Spot × Entry)
  | [] => [(spot, entry)]
  | (other, old) :: entries =>
    if other = spot then (spot, entry) :: entries else (other, old) :: replaced spot entry entries

/-- The tree with an entry at a spot. -/
def insert (tree : FileTree) (spot : Spot) (entry : Entry) : FileTree :=
  ⟨replaced spot entry tree.entries⟩

/-- The most bytes that a name may have. -/
def maxName : Nat := 255

/-- The most bytes that a path may have. -/
def maxPath : Nat := 4095

/-- Follows the parts of a path from a directory to the place they lead to, at which nothing need
be. Behind the last name there may be empty parts. -/
def follow (tree : FileTree) : Spot → List (List Char) → Except FileError Spot
  | spot, [] => .ok spot
  | spot, part :: parts =>
    if Files.isIdle part then follow tree spot parts
    else if part = ['.', '.'] then follow tree spot.dropLast parts
    else if (String.ofList part).utf8ByteSize > maxName then .error .nameTooLong
    else
      let next := spot ++ [part]
      match tree.find? next with
      | some .directory => follow tree next parts
      | some _ => if parts.all List.isEmpty then .ok next else .error .notADirectory
      | none => if parts.all List.isEmpty then .ok next else .error .notFound

/-- The place that the parts of a path lead to, at which nothing need be. -/
def spotOf (tree : FileTree) (path : String) (parts : List (List Char)) : Except FileError Spot :=
  if path.toList.contains '\x00' then .error .zeroInPath
  else if path.isEmpty then .error .notFound
  else if path.utf8ByteSize > maxPath then .error .nameTooLong
  else tree.follow [] parts

/-- The place that a path leads to, at which nothing need be. -/
def spot (tree : FileTree) (path : String) : Except FileError Spot :=
  tree.spotOf path (Files.parts path)

/-- What there is at a path. Behind a slash there has to be a directory. -/
def entry (tree : FileTree) (path : String) : Except FileError Entry := do
  match tree.find? (← tree.spot path) with
  | none => throw .notFound
  | some .directory => return .directory
  | some file => if path.endsWith "/" then throw .notADirectory else return file

/-- Says whether something stands at a path. -/
def isThere (tree : FileTree) (path : String) : Bool :=
  (tree.entry path).isOk

/-- Says whether there is a directory at a path. -/
def isDirectory (tree : FileTree) (path : String) : Bool :=
  match tree.entry path with
  | .ok .directory => true
  | _ => false

/-- The text in a file. -/
def read (tree : FileTree) (path : String) : Except FileError String := do
  match ← tree.entry path with
  | .directory => throw .isADirectory
  | .text content => return content
  | .binary _ => throw .notUtf8

/-- The tree behind the writing of a text. -/
def write (tree : FileTree) (path content : String) : Except FileError FileTree := do
  let spot ← tree.spotOf path (Files.fileParts path)
  if tree.find? spot == some .directory then throw .isADirectory
  return tree.insert spot (.text content)

/-- The tree behind the making of a directory. -/
def makeDirectory (tree : FileTree) (path : String) : Except FileError FileTree := do
  let spot ← tree.spot path
  if (tree.find? spot).isSome then throw .alreadyThere
  return tree.insert spot .directory

/-- Goes over to a new tree, or stays with the tree if there is an error. -/
def update (change : FileTree → Except FileError FileTree) :
    StateM FileTree (Except FileError Unit) := fun tree =>
  match change tree with
  | .ok changed => (.ok (), changed)
  | .error error => (.error error, tree)

instance : Files (StateM FileTree) where
  isThere path := return (← get).isThere path
  isDirectory path := return (← get).isDirectory path
  read path := return (← get).read path
  write path content := update (·.write path content)
  makeDirectory path := update (·.makeDirectory path)

/-- The tree with an entry at a path and with directories around it. -/
def plant (tree : FileTree) (path : String) (entry : Entry) : FileTree :=
  let around := (Files.parent? path).getD ""
  let (_, tree) := (Files.makeDirectories around : StateM FileTree _).run tree
  match tree.spot path with
  | .ok spot => tree.insert spot entry
  | .error _ => tree

/-- A path that leads to a spot. -/
def pathOf (spot : Spot) : String :=
  Text.joined "/" (spot.map String.ofList)

/-- The texts in the files of a tree that another tree does not hold in the same files. -/
def textsBeyond (tree before : FileTree) : List (String × String) :=
  tree.entries.filterMap fun (spot, entry) =>
    match entry with
    | .text content =>
      if before.find? spot = some entry then none else some (pathOf spot, content)
    | _ => none

end FileTree

end SchemaPress
