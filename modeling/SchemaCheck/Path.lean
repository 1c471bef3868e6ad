import SchemaCheck.Json.Typed

/-!
# Paths

A path leads from the root of a document to a place in it, by the keys of objects and the indexes of
arrays.  The root has the empty path.
-/

namespace SchemaCheck

/-- A step into a value. -/
inductive Segment
  | key (key : String)
  | index (index : Nat)
  deriving DecidableEq

/-- The steps to a place, from the root on. -/
abbrev Path := List Segment

namespace Segment

/-- The text of a step behind another one. -/
def spell : Segment → String
  | .key k => "." ++ k
  | .index i => "[" ++ i.repr ++ "]"

def toJson : Segment → Json
  | .key k => .string k
  | .index i => .number (.whole i)

def ofJson? : Json → Option Segment
  | .string k => some (.key k)
  | .number (.whole n) => if 0 ≤ n then some (.index n.toNat) else none
  | _ => none

theorem ofJson?_toJson (segment : Segment) : ofJson? segment.toJson = some segment := by
  cases segment <;> simp [toJson, ofJson?]

end Segment

namespace Path

/-- The text of a path: steps by key are set off by points, and steps by index stand in
brackets. -/
def spell : Path → String
  | .key k :: rest => k ++ String.join (rest.map Segment.spell)
  | path => String.join (path.map Segment.spell)

def toJson (path : Path) : Json := .array (path.map Segment.toJson)

/-- A step of a path that is being read.  A value that is no step is reported once the end of the
path has been looked for. -/
def readSegment (text : Json.Bytes) : Except Json.Fault (Json.Taken Segment text) :=
  match Json.readValue (Json.depthLimit - 1) text with
  | .error fault => .error fault
  | .ok ⟨value, rest, h⟩ =>
    match Segment.ofJson? value with
    | some segment => .ok ⟨segment, rest, h⟩
    | none => .error (Json.faultInArray (.noVariant "PathSegment") rest)

def read (text : Json.Bytes) : Except Json.Fault Path :=
  Json.readAll (Json.readSequence readSegment) text

end Path

end SchemaCheck
