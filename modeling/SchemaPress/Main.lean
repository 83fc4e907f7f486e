import SchemaPress.CommandLine.Run

/-!
# The program

Runs on the files of the machine: the requests about files, the two outputs and the exit code.
-/

set_option autoImplicit false

namespace SchemaPress

def FileError.ofMachine : IO.Error → FileError
  | .noFileOrDirectory .. => .notFound
  | .alreadyExists .. => .alreadyThere
  | error => .other (toString error)

def attempt {α : Type} (request : IO α) : IO (Except FileError α) := do
  try return .ok (← request)
  catch error => return .error (.ofMachine error)

/-- The bytes of a file as a text. -/
def readText (path : String) : IO (Except FileError String) := do
  match ← attempt (IO.FS.readBinFile path) with
  | .error error => return .error error
  | .ok bytes =>
    match String.fromUTF8? bytes with
    | some text => return .ok text
    | none => return .error .notUtf8

instance : Files IO where
  isThere path := return (← attempt (IO.FS.realPath path)).isOk
  isDirectory path := do
    match ← attempt (IO.FS.realPath path) with
    | .ok place => place.isDir
    | .error _ => return false
  read := readText
  write path text := attempt (IO.FS.writeFile path text)
  makeDirectory path := attempt (IO.FS.createDir path)

/-- A piece as it is written to the standard error. -/
def CommandLine.Notice.text : CommandLine.Notice → String
  | told text => text
  | logged entry => entry.text ++ "\n"

end SchemaPress

/-- Runs the program on the arguments of the process. -/
def main (arguments : List String) : IO UInt32 := do
  let outcome ← SchemaPress.CommandLine.run (m := IO) arguments
  (← IO.getStdout).putStr outcome.stdout
  for notice in outcome.notices do
    (← IO.getStderr).putStr notice.text
  return outcome.exit.toUInt32
