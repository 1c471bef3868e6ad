import SchemaCheck.Catalog.NameMap
import SchemaCheck.Json.Typed
import SchemaCheck.Json.Writer

/-!
# Bundles

A bundle holds many documents by name: an object with one key for them, beside which other keys may
stand that nobody reads, or an array of the documents alone.
-/

namespace SchemaCheck.Bundle

open Json (Bytes Fault Reader Taken)

/-- The key under which a bundle holds its documents. -/
def key : String := "schemas"

def typeName : String := "struct BundleDocument"

/-- The documents by name.  They stand two levels deep, and are nested at most as deep as the rest
of the limit lets them. -/
def readDocuments : Reader (List (String × Json)) := Json.readMap (Json.depthLimit - 2)

/-- The value of a member: the documents, or nothing where another key is passed over. -/
def readMember (name : String) : Reader (Option (List (String × Json))) := fun text =>
  if name = key then
    match readDocuments text with
    | .ok taken => .ok (taken.map some)
    | .error fault => .error fault
  else
    match Json.skipValue text with
    | .ok taken => .ok (taken.map fun _ => none)
    | .error fault => .error fault

/-- The documents among the members of an object, from before a key to behind the closing brace,
given those that have been found already.  They cannot be found twice. -/
def readMembers (found : Option (List (String × Json))) (text : Bytes) :
    Except Fault (Taken (List (String × Json)) text) :=
  match Json.readKey text with
  | .error fault => .error fault
  | .ok ⟨name, afterKey, hk⟩ =>
  if name = key ∧ found.isSome then .error (Json.faultInObject (.repeatedKey key) afterKey)
  else
  match Json.expectColon afterKey with
  | .error fault => .error fault
  | .ok ⟨afterColon, hc⟩ =>
  match readMember name afterColon with
  | .error fault => .error fault
  | .ok ⟨documents, rest, hv⟩ =>
  match Json.expectNextMember rest, documents.or found with
  | .error fault, _ => .error fault
  | .ok (.done behind hb), some documents => .ok ⟨documents, behind, by omega⟩
  | .ok (.done behind _), none => .error (.after (.missingKey key) behind)
  | .ok (.more next hn), found =>
    match readMembers found next with
    | .error fault => .error fault
    | .ok taken => .ok (taken.within (by omega))
termination_by text.length

/-- A bundle that is an object, from behind its opening brace. -/
def readObject (text : Bytes) : Except Fault (Taken (List (String × Json)) text) :=
  match h : Json.skipBlanks text with
  | [] => .error (.upon .endInObject [])
  | b :: rest =>
    have hb := Json.length_lt_of_skipBlanks h
    if b = '\x7d'.toUInt8 then .error (.after (.missingKey key) rest)
    else
      match readMembers none (b :: rest) with
      | .ok taken => .ok (taken.within (Json.length_cons_le_of_lt b hb))
      | .error fault => .error fault

/-- A bundle that is an array, from behind its opening bracket: the documents are its one item. -/
def readArray (text : Bytes) : Except Fault (Taken (List (String × Json)) text) :=
  match h : Json.skipBlanks text with
  | [] => .error (.upon .endInList [])
  | b :: rest =>
    have hb := Json.length_lt_of_skipBlanks h
    if b = ']'.toUInt8 then
      .error (Json.faultInArray (.wrongLength 0 (typeName ++ " with 1 element")) (b :: rest))
    else
      match readDocuments (b :: rest) with
      | .error fault => .error fault
      | .ok ⟨documents, afterItem, hi⟩ =>
        match Json.expectArrayEnd afterItem with
        | .error fault => .error fault
        | .ok ⟨behind, hr⟩ => .ok ⟨documents, behind, by simp at hi; omega⟩

/-- The documents of a bundle, in the order of their first appearance; of a repeated name the last
document counts. -/
def read (text : Bytes) : Except Fault (List (String × Json)) :=
  text |> Json.readAll (Json.behindBlanks fun b rest =>
    if b = '\x7b'.toUInt8 then
      match readObject rest with
      | .ok taken => .ok (taken.within (Json.length_le_cons b rest))
      | .error fault => .error fault
    else if b = '['.toUInt8 then
      match readArray rest with
      | .ok taken => .ok (taken.within (Json.length_le_cons b rest))
      | .error fault => .error fault
    else .error (Json.wrongType typeName b rest))

/-- The text of a bundle of documents, in the order of their names. -/
def write (documents : NameMap Json) : String :=
  (Json.object [(key, .object documents.entries)]).pretty

end SchemaCheck.Bundle
