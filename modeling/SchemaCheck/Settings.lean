import SchemaCheck.Catalog
import SchemaCheck.Yaml.Reader
import SchemaCheck.Yaml.Writer

/-!
# Settings

`Settings` is what the command line takes from its settings file: where catalogs are, and how
reports are written.  Every part of the file may be left out, and then has its default.
-/

namespace SchemaCheck

/-- The form of reports. -/
inductive ReportFormat
  | text
  | json
  deriving DecidableEq

namespace ReportFormat

def name : ReportFormat → String
  | .text => "text"
  | .json => "json"

def ofName? (name : String) : Option ReportFormat := [text, json].find? (·.name == name)

end ReportFormat

/-- The settings of the command line. -/
structure Settings where
  version : String := "1.0"
  directories : List String := []
  bundles : List String := []
  format : ReportFormat := .text
  maxViolations : Nat := 0
  jobs : Nat := 4
  deriving DecidableEq

/-- Why settings could not be loaded.  What is wrong with a malformed file is not told apart. -/
inductive SettingsError
  | file (error : FileError)
  | malformed

def SettingsError.message : SettingsError → String
  | .file error => "I/O error: " ++ error.message
  | .malformed => "YAML error: not a settings document"

namespace Settings

open Yaml (Node)

/-! ### Reading -/

/-- The value of a key, read by `read?`, or the default where the key is missing.  A key may not
occur twice. -/
def setting {α : Type} (entries : List (String × Node)) (key : String) (default : α)
    (read? : Node → Option α) : Option α :=
  match entries.filter (·.1 == key) with
  | [] => some default
  | [entry] => read? entry.2
  | _ => none

def paths? (node : Node) : Option (List String) :=
  node.items? >>= fun items => items.mapM Node.text?

def count? : Node → Option Nat
  | .scalar true text => Yaml.unsigned? text
  | _ => none

def format? (node : Node) : Option ReportFormat := node.text? >>= ReportFormat.ofName?

/-- The settings that a node gives.  Keys that are not known are passed over. -/
def ofNode? (node : Node) : Option Settings := do
  let top ← node.entries?
  let version ← setting top "version" "1.0" Node.text?
  let catalog ← setting top "catalog" [] Node.entries?
  let directories ← setting catalog "dirs" [] paths?
  let bundles ← setting catalog "bundles" [] paths?
  let output ← setting top "output" [] Node.entries?
  let format ← setting output "format" .text format?
  let maxViolations ← setting output "max_violations" 0 count?
  let validation ← setting top "validation" [] Node.entries?
  let jobs ← setting validation "jobs" 4 count?
  some { version, directories, bundles, format, maxViolations, jobs }

/-- The settings that a text spells. -/
def ofText? (text : String) : Option Settings := Yaml.read text >>= ofNode?

/-- The settings in a file.  What can be opened but not read as a text is malformed. -/
def load (files : Files) (path : String) : Except SettingsError Settings :=
  match files.readText path with
  | .error .isDirectory => .error .malformed
  | .error .notText => .error .malformed
  | .error error => .error (.file error)
  | .ok text =>
    match ofText? text with
    | some settings => .ok settings
    | none => .error .malformed

/-! ### Writing -/

/-- The lines of a list of paths under its key. -/
def pathLines (key : String) (paths : List String) : List String :=
  if paths.isEmpty then ["  " ++ key ++ ": []"]
  else ("  " ++ key ++ ":") :: paths.map fun path => "  - " ++ Yaml.spell 4 path

/-- The text of settings, with nothing left out. -/
def toText (settings : Settings) : String :=
  let lines :=
    ["version: " ++ Yaml.spell 2 settings.version, "catalog:"] ++
      pathLines "dirs" settings.directories ++ pathLines "bundles" settings.bundles ++
      ["output:", "  format: " ++ settings.format.name,
        "  max_violations: " ++ settings.maxViolations.repr,
        "validation:", "  jobs: " ++ settings.jobs.repr]
  String.join (lines.map (· ++ "\n"))

/-! ### Catalogs -/

/-- The origins of the catalog: all directories, and behind them all bundles. -/
def origins (settings : Settings) : List Origin :=
  settings.directories.map .directory ++ settings.bundles.map .bundle

/-- The catalog of the settings; none where they name no origin. -/
def catalog? (settings : Settings) (files : Files) : Option (Except CatalogError Catalog) :=
  if settings.origins.isEmpty then none else some (Catalog.loadFirst files settings.origins)

end Settings

end SchemaCheck
