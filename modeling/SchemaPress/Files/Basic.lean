import SchemaPress.Files.Path

/-!
# Files

What a program asks of the files around it. `Files m` offers the requests as actions of `m`, so that
a program can be run on the files of a machine as well as on a tree of files that is just a value.
-/

set_option autoImplicit false

namespace SchemaPress

/-- Why a request about a path is refused. -/
inductive FileError where
  | notFound
  | notADirectory
  | isADirectory
  | alreadyThere
  | nameTooLong
  | notUtf8
  | zeroInPath
  | other (words : String)
  deriving DecidableEq, Repr, Inhabited

/-- The text of an error. -/
def FileError.message : FileError → String
  | notFound => "No such file or directory (os error 2)"
  | notADirectory => "Not a directory (os error 20)"
  | isADirectory => "Is a directory (os error 21)"
  | alreadyThere => "File exists (os error 17)"
  | nameTooLong => "File name too long (os error 36)"
  | notUtf8 => "stream did not contain valid UTF-8"
  | zeroInPath => "file name contained an unexpected NUL byte"
  | other words => words

/-- The requests about files. -/
class Files (m : Type → Type) where
  /-- Whether there is anything at a path. -/
  isThere : String → m Bool
  /-- Whether there is a directory at a path. -/
  isDirectory : String → m Bool
  /-- The text in a file. -/
  read : String → m (Except FileError String)
  /-- Puts a text into a file, which is new or loses what it held. -/
  write : String → String → m (Except FileError Unit)
  /-- Makes a directory inside one that is there. -/
  makeDirectory : String → m (Except FileError Unit)

namespace Files

variable {m : Type → Type} [Monad m] [Files m]

/-- Makes the first directory of some paths, from the inside out, whose surroundings are there,
unless it is there itself; answers the paths in front of it, from the outside in. -/
def makeOutermost : List String → List String → m (Except FileError (List String))
  | [], missing => return .ok missing
  | path :: around, missing => do
    match ← makeDirectory path with
    | .ok () => return .ok missing
    | .error .notFound => makeOutermost around (path :: missing)
    | .error .alreadyThere =>
      return if ← isDirectory path then .ok missing else .error .alreadyThere
    | .error error => return .error error

/-- Makes directories one after another, unless they are there. -/
def makeEach : List String → m (Except FileError Unit)
  | [] => return .ok ()
  | path :: paths => do
    match ← makeDirectory path with
    | .ok () => makeEach paths
    | .error .alreadyThere =>
      if ← isDirectory path then makeEach paths else return .error .alreadyThere
    | .error error => return .error error

/-- Makes a directory and the directories around it, as far as they are not there. -/
def makeDirectories (path : String) : m (Except FileError Unit) := do
  match ← makeOutermost (ancestors path) [] with
  | .ok missing => makeEach missing
  | .error error => return .error error

end Files

end SchemaPress
