import SchemaCheck.Json.Fault

/-!
# Files

`Files` is a file system as far as this library can tell: what reading a path gives, and what
listing it gives.  Nothing else is assumed about it, so that whatever is shown of catalogs and of
the command line holds of every arrangement of files.
-/

namespace SchemaCheck

/-- Why a path could not be read or written. -/
inductive FileError
  | notFound
  | notDirectory
  | isDirectory
  | notText
  | other (reason : String)
  deriving DecidableEq

def FileError.message : FileError → String
  | .notFound => "No such file or directory (os error 2)"
  | .notDirectory => "Not a directory (os error 20)"
  | .isDirectory => "Is a directory (os error 21)"
  | .notText => "stream did not contain valid UTF-8"
  | .other reason => reason

/-- The text that bytes spell. -/
def textOfBytes (bytes : Json.Bytes) : Except FileError String :=
  match String.fromUTF8? ⟨bytes.toArray⟩ with
  | some text => .ok text
  | none => .error .notText

/-- A file system: the bytes of a file, and the names in a directory, by path. -/
structure Files where
  read : String → Except FileError Json.Bytes
  list : String → Except FileError (List String)

namespace Files

def readText (files : Files) (path : String) : Except FileError String :=
  files.read path >>= textOfBytes

/-- The path of a name in a directory. -/
def join (directory name : String) : String :=
  if directory.endsWith "/" then directory ++ name else directory ++ "/" ++ name

/-- The last part of a path that names something; slashes at the end and steps that stay in place
are passed over. -/
def fileName? (path : String) : Option String :=
  let parts := (path.splitOn "/").filter fun part => part ≠ "" ∧ part ≠ "."
  match parts.getLast? with
  | some ".." => none
  | last => last

/-- A name split at its last point, unless that is its first character. -/
def splitName (name : String) : String × Option String :=
  let reversed := name.toList.reverse
  let extension := reversed.takeWhile (· ≠ '.')
  match reversed.drop extension.length with
  | '.' :: stem@(_ :: _) =>
    (String.ofList stem.reverse, some (String.ofList extension.reverse))
  | _ => (name, none)

/-- The name of the last part of a path without its extension. -/
def stem (path : String) : String := ((fileName? path).map fun name => (splitName name).1).getD ""

def extension? (name : String) : Option String := (splitName name).2

end Files

end SchemaCheck
