import SchemaCheck.CommandLine.Arguments
import SchemaCheck.Settings

/-!
# Commands

A `Command` is what a command line asks for: to validate documents, to check schemas, or to write
the normal form of a schema.  `Invocation.ofArguments?` reads it from the arguments.
-/

namespace SchemaCheck.CommandLine

/-- What to validate, against what, and how to say it.  The options of a value that is not given are
left to the settings. -/
structure ValidateOptions where
  schema : Option String
  directory : Option String
  name : Option String
  inputs : List String
  byLine : Bool
  jobs : Option Nat
  format : Option ReportFormat
  maxViolations : Option Nat

/-- What a command line asks for. -/
inductive Command
  | validate (options : ValidateOptions)
  | check (schemas : List String)
  | normalize (schema : String) (output : Option String)

/-- A command, and the settings file that it is given. -/
structure Invocation where
  settings : Option String
  command : Command

def path? (text : String) : Option String := if text.isEmpty then none else some text

/-- Paths, at least one of them. -/
def paths? (texts : List String) : Option (List String) :=
  if texts.isEmpty then none else texts.mapM path?

/-- A count below `2 ^ 64`, in decimal digits, with a plus sign or without. -/
def count? (text : String) : Option Nat :=
  let digits := match text.toList with
    | '+' :: digits => digits
    | digits => digits
  if digits.isEmpty ∨ !digits.all Char.isDigit then none
  else (Yaml.number? 10 digits).filter (· < Nat.pow 2 64)

/-- The options that every command knows. -/
def settingsOption : String := "config"

namespace Command

/-- The options of the validating command. -/
def validateKnown : Known :=
  ⟨[settingsOption, "schema", "catalog-dir", "name", "jobs", "format", "max-violations"],
    ["ndjson"]⟩

/-- The validating command.  A schema is given by its file or by its name, and a directory goes with
a name. -/
def validateOf? (arguments : Arguments) : Option Command := do
  let schema ← arguments.optionAs? "schema" path?
  let directory ← arguments.optionAs? "catalog-dir" path?
  let name := arguments.option? "name"
  guard (schema.isNone ∨ (directory.isNone ∧ name.isNone))
  guard (directory.isNone ∨ name.isSome)
  let inputs ← paths? arguments.others
  let jobs ← arguments.optionAs? "jobs" count?
  let format ← arguments.optionAs? "format" ReportFormat.ofName?
  let maxViolations ← arguments.optionAs? "max-violations" count?
  let byLine := arguments.flags.contains "ndjson"
  some (.validate { schema, directory, name, inputs, byLine, jobs, format, maxViolations })

def checkOf? (arguments : Arguments) : Option Command := do
  let schemas ← paths? arguments.others
  some (.check schemas)

def normalizeOf? (arguments : Arguments) : Option Command := do
  let schemas ← paths? arguments.others
  let output ← arguments.optionAs? "output" path?
  match schemas with
  | [schema] => some (.normalize schema output)
  | _ => none

/-- The commands by name, with the options that they know. -/
def byName? : String → Option (Known × (Arguments → Option Command))
  | "validate" => some (validateKnown, validateOf?)
  | "check" => some (⟨[settingsOption], []⟩, checkOf?)
  | "normalize" => some (⟨[settingsOption, "output"], []⟩, normalizeOf?)
  | _ => none

end Command

namespace Invocation

/-- The arguments before the name of a command, and that name with what follows it. -/
def splitCommand? : List String → Option (List String × String × List String)
  | [] => none
  | argument :: rest =>
    if !looksLikeOption argument then some ([], argument, rest)
    else
      match splitOption argument, rest with
      | (_, none), value :: rest =>
        (splitCommand? rest).map fun (before, command) => (argument :: value :: before, command)
      | _, rest => (splitCommand? rest).map fun (before, command) => (argument :: before, command)

/-- The invocation that arguments spell.  The settings file may be named before the command or
behind it; if it is named at both places, the second one counts. -/
def ofArguments? (arguments : List String) : Option Invocation := do
  let (before, name, behind) ← splitCommand? arguments
  let outer ← Arguments.read? ⟨[settingsOption], []⟩ before
  guard outer.others.isEmpty
  let (known, command?) ← Command.byName? name
  let inner ← Arguments.read? known behind
  let outerSettings ← outer.optionAs? settingsOption path?
  let innerSettings ← inner.optionAs? settingsOption path?
  let command ← command? inner
  some ⟨innerSettings.or outerSettings, command⟩

end Invocation

end SchemaCheck.CommandLine
