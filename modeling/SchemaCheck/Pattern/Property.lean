import SchemaCheck.Text.Age
import SchemaCheck.Text.Category
import SchemaCheck.Text.Property
import SchemaCheck.Text.Script
import SchemaCheck.Text.Segment

/-!
# Sets of characters that patterns can name

The sets of `\d`, `\s` and `\w`, those in brackets such as `[:alpha:]`, and those of `\p`, which are
found by a property, a general category or a script.
-/

namespace SchemaCheck.Pattern

open Text

/-- Every code point that is a character. -/
def anyChar : CharSet := ⟨[(0, 0xD7FF), (0xE000, CharSet.lastPoint)]⟩

def digits : CharSet := categoryTable.get "nd"

def spaces : CharSet := propertyTable.get "whitespace"

/-- Letters, marks, digits and what connects them. -/
def wordChars : CharSet :=
  CharSet.unions [propertyTable.get "alphabetic", categoryTable.get "mn", categoryTable.get "mc",
    categoryTable.get "me", categoryTable.get "nd", categoryTable.get "pc",
    propertyTable.get "joincontrol"]

def asciiDigits : CharSet := CharSet.ofText "30-39"

/-- The space and the controls that are white space. -/
def asciiSpaces : CharSet := CharSet.ofText "9-D 20"

/-- Letters, digits and the underscore. -/
def asciiWordChars : CharSet := CharSet.ofText "30-39 41-5A 5F 61-7A"

/-- The sets that may be named in brackets. -/
def bracketTable : List (String × String) := [
  ("alnum", "30-39 41-5A 61-7A"),
  ("alpha", "41-5A 61-7A"),
  ("ascii", "0-7F"),
  ("blank", "9 20"),
  ("cntrl", "0-1F 7F"),
  ("digit", "30-39"),
  ("graph", "21-7E"),
  ("lower", "61-7A"),
  ("print", "20-7E"),
  ("punct", "21-2F 3A-40 5B-60 7B-7E"),
  ("space", "9-D 20"),
  ("upper", "41-5A"),
  ("word", "30-39 41-5A 5F 61-7A"),
  ("xdigit", "30-39 41-46 61-66")]

/-- The set that a name in brackets stands for. -/
def bracketSet? (name : String) : Option CharSet := (bracketTable.lookup name).map CharSet.ofText

/-- The categories that stand for several others. -/
def categoryGroups : List (List String × List String) := [
  (["lc", "casedletter"], ["lu", "ll", "lt"]),
  (["l", "letter"], ["lu", "ll", "lt", "lm", "lo"]),
  (["m", "mark", "combiningmark"], ["mn", "mc", "me"]),
  (["n", "number"], ["nd", "nl", "no"]),
  (["p", "punctuation", "punct"], ["pc", "pd", "ps", "pe", "pi", "pf", "po"]),
  (["s", "symbol"], ["sm", "sc", "sk", "so"]),
  (["z", "separator"], ["zs", "zl", "zp"]),
  (["c", "other"], ["cc", "cf", "cn", "co"])]

/-- A general category, by its name in loose form. -/
def category? (name : String) : Option CharSet :=
  if name == "any" then some anyChar
  else if name == "ascii" then some (CharSet.range 0 0x7F)
  else if name == "assigned" then some (anyChar.diff (categoryTable.get "cn"))
  else if name == "decimalnumber" || name == "digit" then some digits
  else match categoryGroups.find? fun group => group.1.contains name with
    | some group => some (CharSet.unions (group.2.map categoryTable.get))
    | none => categoryTable.find? name

/-- The set that `\p` finds by one name.  Three names of categories are also names of
properties. -/
def namedSet? (name : String) : Option CharSet :=
  let name := NamedTable.loose name
  let property :=
    if name == "cf" || name == "sc" || name == "lc" then none else propertyTable.find? name
  property <|> category? name <|> scriptTable.find? name

/-- The characters of an age: those that its version or an earlier one introduced. -/
def age? (name : String) : Option CharSet := do
  let row ← ageTable.row? name
  let earlier := ageTable.sets.takeWhile fun other => other.1 != row.1
  some (CharSet.unions (row.2 :: earlier.map Prod.snd))

/-- The set that `\p` finds by a property and one of its values. -/
def valuedSet? (property value : String) : Option CharSet :=
  let property := NamedTable.loose property
  let value := NamedTable.loose value
  if property == "gc" || property == "generalcategory" then category? value
  else if property == "sc" || property == "script" then scriptTable.find? value
  else if property == "scx" || property == "scriptextensions" then scriptExtensionTable.find? value
  else if property == "age" then age? value
  else if property == "gcb" || property == "graphemeclusterbreak" then
    graphemeBreakTable.find? value
  else if property == "wb" || property == "wordbreak" then wordBreakTable.find? value
  else if property == "sb" || property == "sentencebreak" then sentenceBreakTable.find? value
  else none

end SchemaCheck.Pattern
