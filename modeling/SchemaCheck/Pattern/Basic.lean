import SchemaCheck.Pattern.Reader

/-!
# Patterns

A `Pattern` is a text that can be read as a pattern, together with what it was read as.  Since the
text decides the rest, two patterns are the same when their texts are.

Of a pattern, everything else uses whether its text can be read (`Pattern.ofSource?`) and whether it
occurs in a text (`Pattern.occursIn`), and what is proved holds of any reader and any search.
What is wrong with a text that cannot be read is not told apart: there is one message for all of
them, `Pattern.refusal`, in the place of the many that a reader of patterns would give.  Of this
message only that it is on one line is used.
-/

namespace SchemaCheck

/-- A readable pattern. -/
structure Pattern where
  source : String
  node : Pattern.Node
  reads : Pattern.read? source = some node

namespace Pattern

/-- The pattern with the given text, if it can be read. -/
def ofSource? (source : String) : Option Pattern :=
  match h : read? source with
  | some node => some ⟨source, node, h⟩
  | none => none

/-- What is said of a text that cannot be read as a pattern, whatever is wrong with it. -/
def refusal : String := "<regex>"

/-- Whether some part of a text is described by the pattern. -/
def occursIn (pattern : Pattern) (text : String) : Bool := pattern.node.occursIn text.toList

theorem ext {p q : Pattern} (h : p.source = q.source) : p = q := by
  obtain ⟨s, n, hn⟩ := p
  obtain ⟨t, m, hm⟩ := q
  obtain rfl : s = t := h
  obtain rfl : n = m := Option.some.inj (hn.symm.trans hm)
  rfl

instance : DecidableEq Pattern := fun p q =>
  if h : p.source = q.source then .isTrue (ext h)
  else .isFalse fun e => h (congrArg source e)

theorem ofSource?_source (pattern : Pattern) : ofSource? pattern.source = some pattern := by
  unfold ofSource?
  split
  · exact congrArg some (ext rfl)
  · simp_all [pattern.reads]

theorem source_of_ofSource? {source : String} {pattern : Pattern}
    (h : ofSource? source = some pattern) : pattern.source = source := by
  unfold ofSource? at h
  split at h <;> simp_all
  rw [← h]

end Pattern

end SchemaCheck
