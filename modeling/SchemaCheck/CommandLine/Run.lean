import SchemaCheck.CommandLine.Command
import SchemaCheck.Report

/-!
# Running commands

`Invocation.run` says what a command prints and how it ends, given the files that it can see and its
standard input.  The one thing that a command may still have to do is to write a file: then it says
how it ends when that is done, or has failed.
-/

namespace SchemaCheck.CommandLine

/-- What a command prints, and its exit code. -/
structure Output where
  code : Nat
  stdout : String
  stderr : String
  deriving DecidableEq

namespace Output

/-- Lines, each with its line end. -/
def linesText (lines : List String) : String := String.join (lines.map (· ++ "\n"))

/-- Lines of a command that has done its work. -/
def success (lines : List String) : Output := ⟨0, linesText lines, ""⟩

/-- Lines of a command, and the message with which it ends. -/
def failure (lines : List String) (message : String) : Output :=
  ⟨1, linesText lines, "error: " ++ message ++ "\n"⟩

/-- The output of a command line that asks for nothing known. -/
def usage : Output := ⟨2, "", ""⟩

/-- Lines that tell of `total` things of which `failed` were not in order. -/
def tally (lines : List String) (failed total : Nat) (what : String) : Output :=
  if failed = 0 then success lines
  else failure lines (failed.repr ++ " of " ++ total.repr ++ " " ++ what)

end Output

/-- How a command ends: with an output, or by writing a file, whose success decides the output. -/
inductive Ending
  | done (output : Output)
  | write (path content : String) (behind : Except FileError Unit → Output)

/-! ### Validating -/

def quote (name : String) : String := "'" ++ name ++ "'"

/-- The catalog that options and settings name. -/
def catalogOf (files : Files) (settings : Settings) (directory : Option String) :
    Except String Catalog :=
  match directory with
  | some directory =>
    (Catalog.load files (.directory directory)).mapError fun error =>
      "Failed to load catalog " ++ quote directory ++ ": " ++ error.message
  | none =>
    match settings.catalog? files with
    | none => .error
        "No catalog configured: pass --catalog-dir or set catalog sources in --config"
    | some loaded => loaded.mapError fun error => "Failed to load catalog: " ++ error.message

def schemaOf (files : Files) (path : String) : Except String Schema :=
  (Schema.ofFile files path).mapError fun failure =>
    "Failed to load schema " ++ quote path ++ ": " ++ failure.message

namespace ValidateOptions

/-- The schema to validate against: that of a file, or one of a catalog. -/
def loadSchema (options : ValidateOptions) (files : Files) (settings : Settings) :
    Except String Schema :=
  match options.schema, options.name with
  | some path, _ => schemaOf files path
  | none, none => .error "Specify --schema <file>, or --name <schema> with a catalog"
  | none, some name =>
    match catalogOf files settings options.directory with
    | .error message => .error message
    | .ok catalog =>
      match catalog.get? name with
      | some schema => .ok schema
      | none => .error ("Schema " ++ quote name ++ " not found in catalog")

end ValidateOptions

/-- The inputs at paths.  A dash stands for what is left of the standard input, which is nothing
the second time. -/
def readInputs (files : Files) (stdin : Json.Bytes) : List String → Except String (List Input)
  | [] => .ok []
  | "-" :: paths =>
    match textOfBytes stdin with
    | .error error => .error ("Failed to read standard input: " ++ error.message)
    | .ok text => (readInputs files [] paths).map (⟨"<stdin>", text⟩ :: ·)
  | path :: paths =>
    match files.readText path with
    | .error error => .error ("Failed to read " ++ quote path ++ ": " ++ error.message)
    | .ok text => (readInputs files stdin paths).map (⟨path, text⟩ :: ·)

namespace ValidateOptions

/-- The texts to validate: the inputs, or their lines. -/
def loadInputs (options : ValidateOptions) (files : Files) (stdin : Json.Bytes) :
    Except String (List Input) :=
  (readInputs files stdin options.inputs).map fun inputs =>
    if options.byLine then inputs.flatMap Input.byLine else inputs

def reports (options : ValidateOptions) (files : Files) (stdin : Json.Bytes)
    (settings : Settings) : Except String (List Report) :=
  match options.loadSchema files settings with
  | .error message => .error message
  | .ok schema =>
    let limit := options.maxViolations.getD settings.maxViolations
    (options.loadInputs files stdin).map fun inputs => inputs.map (Report.of schema limit)

/-- Validates all inputs.  Nothing is printed unless all of them can be read. -/
def run (options : ValidateOptions) (files : Files) (stdin : Json.Bytes) (settings : Settings) :
    Output :=
  match options.reports files stdin settings with
  | .error message => .failure [] message
  | .ok reports =>
    let format := options.format.getD settings.format
    .tally (reports.flatMap (Report.linesAs format))
      (reports.filter fun report => !report.valid).length reports.length
      "document(s) failed validation"

end ValidateOptions

/-! ### Checking and normalizing -/

/-- The lines about the schema in a file. -/
def checkLines (path : String) : Except Failure Schema → List String
  | .ok schema => [path ++ ": ok (" ++ schema.fields.length.repr ++ " field(s))"]
  | .error (.spec errors) =>
    (path ++ ": " ++ errors.length.repr ++ " error(s)") ::
      errors.map fun error => "  " ++ error.message
  | .error failure => [path ++ ": " ++ failure.message]

def runCheck (files : Files) (paths : List String) : Output :=
  let loaded := paths.map fun path => (path, Schema.ofFile files path)
  .tally (loaded.flatMap fun (path, schema) => checkLines path schema)
    (loaded.filter fun (_, schema) => !schema.isOk).length loaded.length
    "schema(s) failed to compile"

/-- The normal form of a schema as a text. -/
def normalText (schema : Schema) : String := schema.toSpec.pretty

/-- Prints the normal form of the schema in a file, or writes it to another one. -/
def runNormalize (files : Files) (path : String) (output : Option String) : Ending :=
  match schemaOf files path, output with
  | .error message, _ => .done (.failure [] message)
  | .ok schema, none => .done (.success [normalText schema])
  | .ok schema, some target =>
    .write target (normalText schema ++ "\n") fun
      | .ok () => .success ["Wrote normalized schema to " ++ quote target ++ "."]
      | .error error => .failure [] ("Failed to write " ++ quote target ++ ": " ++ error.message)

namespace Command

/-- Runs a command under settings. -/
def run (command : Command) (files : Files) (stdin : Json.Bytes) (settings : Settings) : Ending :=
  match command with
  | .validate options => .done (options.run files stdin settings)
  | .check schemas => .done (runCheck files schemas)
  | .normalize schema output => runNormalize files schema output

end Command

namespace Invocation

def loadSettings (invocation : Invocation) (files : Files) : Except String Settings :=
  match invocation.settings with
  | none => .ok {}
  | some path => (Settings.load files path).mapError fun error =>
      "Failed to load config " ++ quote path ++ ": " ++ error.message

/-- Runs the command of an invocation, once its settings have been loaded. -/
def run (invocation : Invocation) (files : Files) (stdin : Json.Bytes) : Ending :=
  match invocation.loadSettings files with
  | .error message => .done (.failure [] message)
  | .ok settings => invocation.command.run files stdin settings

end Invocation

end SchemaCheck.CommandLine
