/-!
# Arguments

The syntax of a command line: options with values, flags, and other arguments.  An option is given
at most once, as `--name value` or `--name=value`; behind `--` nothing is an option any more.
-/

namespace SchemaCheck.CommandLine

/-- The options that a command knows: those with a value and those without. -/
structure Known where
  options : List String
  flags : List String

/-- The arguments of a command, sorted. -/
structure Arguments where
  options : List (String × String)
  flags : List String
  others : List String

/-- Whether an argument would be taken for an option.  A single dash is none. -/
def looksLikeOption (argument : String) : Bool := argument.startsWith "-" && argument != "-"

/-- The name of an option without its dashes, and the value that is attached to it. -/
def splitOption (argument : String) : String × Option String :=
  let text := argument.toList.drop 2
  let name := text.takeWhile (· ≠ '=')
  match text.drop name.length with
  | [] => (String.ofList name, none)
  | _ :: value => (String.ofList name, some (String.ofList value))

namespace Arguments

def empty : Arguments := ⟨[], [], []⟩

/-- The arguments with one more option before them. -/
def addOption (name value : String) (arguments : Arguments) : Arguments :=
  { arguments with options := (name, value) :: arguments.options }

/-- The arguments with one more flag before them. -/
def addFlag (name : String) (arguments : Arguments) : Arguments :=
  { arguments with flags := name :: arguments.flags }

/-- The arguments with one more before them that is no option. -/
def addOther (argument : String) (arguments : Arguments) : Arguments :=
  { arguments with others := argument :: arguments.others }

/-- Sorts arguments.  There are none of options that are not known, of an option without value, and
of a flag that has one. -/
def sort? (known : Known) : List String → Option Arguments
  | [] => some .empty
  | "--" :: rest => some { empty with others := rest }
  | argument :: rest =>
    if !looksLikeOption argument then (sort? known rest).map (addOther argument)
    else if !argument.startsWith "--" then none
    else
      let (name, attached) := splitOption argument
      if known.flags.contains name then
        match attached with
        | some _ => none
        | none => (sort? known rest).map (addFlag name)
      else if known.options.contains name then
        match attached, rest with
        | some value, rest => (sort? known rest).map (addOption name value)
        | none, [] => none
        | none, value :: rest =>
          if looksLikeOption value then none else (sort? known rest).map (addOption name value)
      else none

/-- Whether no option and no flag is repeated. -/
def isUnambiguous (arguments : Arguments) : Bool :=
  decide ((arguments.options.map (·.1)).Nodup ∧ arguments.flags.Nodup)

/-- The arguments of a command, if they are in order. -/
def read? (known : Known) (arguments : List String) : Option Arguments :=
  (sort? known arguments).filter isUnambiguous

def option? (arguments : Arguments) (name : String) : Option String := arguments.options.lookup name

/-- The value of an option, read by `read?`.  It is a failure if there is a value that cannot be
read, but not if there is none. -/
def optionAs? {α : Type} (arguments : Arguments) (name : String) (read? : String → Option α) :
    Option (Option α) :=
  match arguments.option? name with
  | none => some none
  | some value => (read? value).map some

end Arguments

end SchemaCheck.CommandLine
