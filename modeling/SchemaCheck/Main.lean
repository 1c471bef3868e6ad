import SchemaCheck.CommandLine.Run

/-!
# The program

Reads the arguments, looks at the files that they name, runs the command on what was found, and does
what the command says.  Everything that is decided is decided in `CommandLine.Invocation.run`.
-/

namespace SchemaCheck

/-- What the operating system reports, as far as it makes a difference. -/
def FileError.ofIO : IO.Error → FileError
  | .noFileOrDirectory .. => .notFound
  | .inappropriateType _ code _ => if code == 21 then .isDirectory else .notDirectory
  | .resourceExhausted _ code details => .other (details ++ " (os error " ++ toString code ++ ")")
  | .permissionDenied _ code details => .other (details ++ " (os error " ++ toString code ++ ")")
  | error => .other (toString error)

/-- The result of an action on a file. -/
def attempt {α : Type} (action : IO α) : IO (Except FileError α) := do
  try
    return .ok (← action)
  catch error =>
    return .error (.ofIO error)

def readPaths (paths : List String) : IO (List (String × Except FileError Json.Bytes)) :=
  paths.mapM fun (path : String) => return (path, ← attempt do
    return (← IO.FS.readBinFile path).toList)

def listPaths (paths : List String) : IO (List (String × Except FileError (List String))) :=
  paths.mapM fun (path : String) => return (path, ← attempt do
    return ((← (System.mkFilePath [path]).readDir).map (·.fileName)).toList)

/-- The file system of what was found. -/
def Files.ofFound (read : List (String × Except FileError Json.Bytes))
    (listed : List (String × Except FileError (List String))) : Files where
  read path := (read.lookup path).getD (.error .notFound)
  list path := (listed.lookup path).getD (.error .notFound)

namespace CommandLine

/-- The files that a command names. -/
def Command.paths : Command → List String
  | .validate options => options.schema.toList ++ options.inputs
  | .check schemas => schemas
  | .normalize schema _ => [schema]

/-- The directories and bundles that a command may load a catalog from. -/
def Command.origins (settings : Settings) : Command → List String × List String
  | .validate options =>
    match options.name, options.directory with
    | none, _ => ([], [])
    | some _, some directory => ([directory], [])
    | some _, none => (settings.directories, settings.bundles)
  | _ => ([], [])

/-- Whether a command reads its standard input. -/
def Command.readsInput : Command → Bool
  | .validate options => options.inputs.contains "-"
  | _ => false

/-- Looks at the files that an invocation may read. -/
def Invocation.look (invocation : Invocation) : IO Files := do
  let named ← readPaths (invocation.settings.toList ++ invocation.command.paths)
  let settings := (invocation.loadSettings (.ofFound named [])).toOption.getD {}
  let (directories, bundles) := invocation.command.origins settings
  let listed ← listPaths directories
  let documents := listed.flatMap fun (directory, names) =>
    ((names.toOption.getD []).filter Catalog.isDocumentName).map (Files.join directory)
  let held ← readPaths (documents ++ bundles)
  return .ofFound (named ++ held) listed

/-- How the program is called. -/
def usageText : String :=
  "usage: [--config <file>] validate (--schema <file> | [--catalog-dir <directory>] --name <name>)
    [--ndjson] [--jobs <count>] [--format text|json] [--max-violations <count>] <input>...
       [--config <file>] check <schema>...
       [--config <file>] normalize [--output <file>] <schema>"

def Output.print (output : Output) : IO UInt32 := do
  (← IO.getStdout).putStr output.stdout
  (← IO.getStderr).putStr output.stderr
  return output.code.toUInt32

end CommandLine

/-- What is left of a stream. -/
partial def readRest (stream : IO.FS.Stream) (before : ByteArray) : IO ByteArray := do
  let chunk ← stream.read 65536
  if chunk.isEmpty then return before else readRest stream (before ++ chunk)

end SchemaCheck

open SchemaCheck CommandLine in
/-- Runs the command that the arguments ask for. -/
def main (arguments : List String) : IO UInt32 := do
  match Invocation.ofArguments? arguments with
  | none =>
    IO.eprintln usageText
    Output.usage.print
  | some invocation =>
    let files ← invocation.look
    let stdin ←
      if invocation.command.readsInput then readRest (← IO.getStdin) .empty else pure .empty
    match invocation.run files stdin.toList with
    | .done output => output.print
    | .write path content behind =>
      (behind (← attempt (IO.FS.writeFile path content))).print
