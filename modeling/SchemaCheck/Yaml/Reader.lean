import SchemaCheck.Yaml.Scalar

/-!
# Reading YAML

`Yaml.read` takes a text to the node that it spells.  A block mapping or sequence goes on as long as
its keys or entries stand in one column, and what belongs to a key or an entry stands further to the
right; a sequence alone may stand in the column of its key.  Brackets nest without regard to
columns.  A key has to be on one line with its colon.

This is the part of YAML that settings are written in: block mappings and sequences, collections in
brackets, scalars that are plain or in quotes, and literal blocks, in one document with at most the
marks `---` and `...` around it.  Anchors, aliases, tags, folded blocks, explicit keys and
directives are not read: a text that has them has no node.  Nothing is proved from what is read; in
every theorem settings are whatever the reader makes of a file.

Every call of a reader by another one passes on less fuel.  A call that reads nothing calls no
other, so that a few units of fuel a character are enough.
-/

namespace SchemaCheck.Yaml

mutual

/-- A scalar or a collection in brackets that begins here. -/
def readInline (fuel : Nat) (flow : Bool) (least : Nat) (cursor : Cursor) :
    Option (Node × Cursor) :=
  match fuel with
  | 0 => none
  | fuel + 1 =>
    let quoted (taken : Option (List Char × Cursor)) : Option (Node × Cursor) :=
      taken.map fun (text, behind) => (.scalar false (String.ofList text), behind)
    match cursor.rest with
    | '[' :: _ => (readFlowItems fuel least true (cursor.behind 1 true)).map
        fun (items, behind) => (.sequence items, behind)
    | '\x7b' :: _ => (readFlowEntries fuel least true (cursor.behind 1 true)).map
        fun (entries, behind) => (.mapping entries, behind)
    | '\'' :: rest => quoted (singleFrom [] cursor.line (cursor.column + 1) rest)
    | '"' :: rest => quoted (doubleFrom false [] 0 [] cursor.line (cursor.column + 1) rest)
    | '|' :: _ => if flow then none else quoted (readBlock least (cursor.behind 1 false))
    | rest =>
      if beginsPlain flow rest ∧ !cursor.atEnd then
        (readPlain flow least cursor).map fun (text, behind) =>
          (.scalar true (String.ofList text), behind)
      else none

/-- An item inside brackets, or the value of a key there. -/
def readFlowValue (fuel : Nat) (least : Nat) (cursor : Cursor) : Option (Node × Cursor) :=
  match fuel with
  | 0 => none
  | fuel + 1 =>
    let here := cursor.skip true
    if here.rest.head?.any ",]\x7d".toList.contains then some (.absent, here)
    else readInline fuel true least here

/-- The items up to a closing bracket, from an opening bracket or behind an item.  A key with a
value may be an item, as a mapping of its own. -/
def readFlowItems (fuel : Nat) (least : Nat) (first : Bool) (cursor : Cursor) :
    Option (List Node × Cursor) :=
  match fuel with
  | 0 => none
  | fuel + 1 =>
    let here := cursor.skip true
    let here? := match here.rest with
      | ',' :: _ => if first then none else some ((here.behind 1 true).skip true)
      | ']' :: _ => some here
      | _ => if first then some here else none
    match here? with
    | none => none
    | some here =>
      match here.rest with
      | ']' :: _ => some ([], here.behind 1 false)
      | _ =>
        match readInline fuel true least here with
        | none => none
        | some (node, behind) =>
          let item? := match behind.behindColon? true with
            | none => some (node, behind)
            | some value =>
              if value.line ≠ here.line then none
              else (readFlowValue fuel least value).map fun (value, behind) =>
                (.mapping [(node, value)], behind)
          match item? with
          | none => none
          | some (item, behind) => (readFlowItems fuel least false behind).map
              fun (items, last) => (item :: items, last)

/-- The entries up to a closing brace, from an opening brace or behind an entry.  A key may go
without value. -/
def readFlowEntries (fuel : Nat) (least : Nat) (first : Bool) (cursor : Cursor) :
    Option (List (Node × Node) × Cursor) :=
  match fuel with
  | 0 => none
  | fuel + 1 =>
    let here := cursor.skip true
    let here? := match here.rest with
      | ',' :: _ => if first then none else some ((here.behind 1 true).skip true)
      | '\x7d' :: _ => some here
      | _ => if first then some here else none
    match here? with
    | none => none
    | some here =>
      match here.rest with
      | '\x7d' :: _ => some ([], here.behind 1 false)
      | _ =>
        match readInline fuel true least here with
        | none => none
        | some (key, behind) =>
          let value? := match behind.behindColon? true with
            | none => some (.absent, behind)
            | some value =>
              if value.line ≠ here.line then none else readFlowValue fuel least value
          match value? with
          | none => none
          | some (value, behind) => (readFlowEntries fuel least false behind).map
              fun (entries, last) => ((key, value) :: entries, last)

end

mutual

/-- A node outside of brackets whose columns are at least `least`.  What stands further to the left
is not part of it, and then it is absent; but a sequence that belongs to a key may stand in the
column of the key. -/
def readNode (fuel : Nat) (least : Nat) (ofKey : Bool) (cursor : Cursor) :
    Option (Node × Cursor) :=
  match fuel with
  | 0 => none
  | fuel + 1 =>
    let here := cursor.skip false
    let aside := ofKey && here.column + 1 == least && here.atEntry && here.fresh
    if here.atEnd ∨ (here.column < least ∧ !aside) then some (.absent, here)
    else if here.atEntry then
      if here.fresh then
        (readItems fuel here.column aside here).map fun (items, behind) =>
          (.sequence items, behind)
      else none
    else
      match readInline fuel false least here with
      | none => none
      | some (node, behind) =>
        match behind.behindColon? false with
        | none => some (node, behind)
        | some value =>
          if here.fresh ∧ value.line = here.line then
            (readEntries fuel here.column node value).map fun (entries, behind) =>
              (.mapping entries, behind)
          else none

/-- The items of a sequence whose entries stand in a column.  Only one that stands in the column of
its key may be followed there by something else. -/
def readItems (fuel : Nat) (column : Nat) (aside : Bool) (cursor : Cursor) :
    Option (List Node × Cursor) :=
  match fuel with
  | 0 => none
  | fuel + 1 =>
    let here := cursor.skip false
    if here.atEnd ∨ here.column < column then some ([], here)
    else if column < here.column then none
    else if !here.atEntry then if aside then some ([], here) else none
    else
      match readNode fuel (column + 1) false (here.behind 1 true) with
      | none => none
      | some (item, behind) => (readItems fuel column aside behind).map fun (items, last) =>
          (item :: items, last)

/-- The entries of a mapping whose keys stand in a column, from behind the colon of a key. -/
def readEntries (fuel : Nat) (column : Nat) (key : Node) (cursor : Cursor) :
    Option (List (Node × Node) × Cursor) :=
  match fuel with
  | 0 => none
  | fuel + 1 =>
    match readNode fuel (column + 1) true cursor with
    | none => none
    | some (value, behind) =>
      let here := behind.skip false
      if here.atEnd ∨ here.column < column then some ([(key, value)], here)
      else if column < here.column ∨ here.atEntry then none
      else
        match readInline fuel false (column + 1) here with
        | none => none
        | some (next, behind) =>
          match behind.behindColon? false with
          | none => none
          | some after =>
            if after.line ≠ here.line then none
            else (readEntries fuel column next after).map fun (entries, last) =>
              ((key, value) :: entries, last)

end

/-- The characters that may stand in a text. -/
def isAllowed (c : Char) : Bool :=
  c == '\t' || c == '\n' || (' ' ≤ c && c ≤ '~') ||
    ('\u00a0' ≤ c && c != '\ufeff' && c != '\ufffe' && c != '\uffff')

/-- The text with every line break as a line feed. -/
def withLineFeeds : List Char → List Char
  | [] => []
  | '\r' :: '\n' :: rest => '\n' :: withLineFeeds rest
  | c :: rest => (if c = '\r' ∨ c = '\u0085' then '\n' else c) :: withLineFeeds rest

/-- Whether nothing but the end of a document is left of a text. -/
def isFinished (cursor : Cursor) : Bool :=
  let here := cursor.skip false
  here.rest.isEmpty ||
    (here.atMarker "..." && ((here.behind 3 false).skip false).rest.isEmpty)

def readDocument (fuel : Nat) (cursor : Cursor) : Option Node :=
  let here := cursor.skip false
  let start? :=
    if here.atMarker "---" then some (here.behind 3 false)
    else if here.atMarker "..." ∨ here.rest.head? = some '%' then none
    else some here
  match start? with
  | none => none
  | some start =>
    match readNode fuel 0 false start with
    | some (node, behind) => if isFinished behind then some node else none
    | none => none

/-- The node that a text spells, which is absent in a text without any. -/
def read (text : String) : Option Node :=
  let chars := withLineFeeds (text.toList.dropWhile (· == '\ufeff'))
  if chars.all isAllowed then readDocument (3 * chars.length + 3) ⟨chars, 0, 0, true⟩ else none

end SchemaCheck.Yaml
