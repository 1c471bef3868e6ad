import SchemaCheck.Text.CharSet

/-!
# Sets of characters with names

A `NamedTable` finds a set under any of its names.  Names are compared in `NamedTable.loose` form:
case, spaces, hyphens and underscores do not count, and neither does `is` in front.
-/

namespace SchemaCheck.Text

/-- A row of a table: the names of a set, and its ranges as text. -/
structure NamedEntry where
  names : List String
  ranges : String

/-- Sets of characters under their names. -/
structure NamedTable where
  sets : List (List String × CharSet)

namespace NamedTable

/-- Reads the rows of a table. -/
def ofEntries (entries : List NamedEntry) : NamedTable :=
  ⟨entries.map fun entry => (entry.names, CharSet.ofText entry.ranges)⟩

def row? (table : NamedTable) (name : String) : Option (List String × CharSet) :=
  table.sets.find? fun row => row.1.contains name

def find? (table : NamedTable) (name : String) : Option CharSet :=
  (table.row? name).map Prod.snd

/-- The set with the given name, or the empty one. -/
def get (table : NamedTable) (name : String) : CharSet :=
  (table.find? name).getD CharSet.empty

/-- The form in which names are compared. -/
def loose (name : String) : String :=
  let chars := name.toList
  let hasIs := match chars with
    | i :: s :: _ => i.toLower == 'i' && s.toLower == 's'
    | _ => false
  let kept := (if hasIs then chars.drop 2 else chars).filter fun c =>
    c.toNat < 0x80 && c != ' ' && c != '_' && c != '-'
  let form := String.ofList (kept.map Char.toLower)
  if hasIs && form == "c" then "isc" else form

end NamedTable

end SchemaCheck.Text
