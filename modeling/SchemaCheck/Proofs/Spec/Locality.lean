import Mathlib.Tactic.Common
import SchemaCheck.Proofs.Spec.Listing
import SchemaCheck.Proofs.Spec.Refusal

/-!
# The place of a defect

The listing of defects is the whole outcome of reading a document, and the defects of a spec stay
where they are when another spec is exchanged.

* `SpecSite.SameSurface`: two specs at one place that differ at most in the specs below them.  Such
  specs have the same own defects (`SameSurface.defects_eq`).
* `SpecSite.Exchanged`: two documents that differ in one spec, which may be anything in either.
  `Exchanged.exists_errors_eq`, by induction on the way down to that spec: the defects before it and
  behind it are the same in both listings.
* `Schema.errors_ofSpec_eq_listing`: what is found in a document is the listing, a document without
  defects gives a schema, and a spec does not show in the defects of another.
-/

namespace SchemaCheck

namespace SpecError

/-- Seen from the root itself, a defect is where it is. -/
lemma within_nil : within [] = id := by
  funext error
  rfl

end SpecError

/-! ### What shows of a spec without the specs below it -/

/-- What shows of a value that may be a list of specs: whether it is a list, and its length. -/
def Json.outline : Json → Option Nat
  | .array items => some items.length
  | _ => none

namespace Members

/-- Two field specs that have the same keys, and the same values but for the specs below. -/
structure SameSpec (members members' : Members) : Prop where
  keys : ∀ key ∉ ["items", "fix_items", "schema"], members.lookup key = members'.lookup key
  items : (members.lookup "items").isSome = (members'.lookup "items").isSome
  tuple : (members.lookup "fix_items").map Json.outline =
    (members'.lookup "fix_items").map Json.outline
  schema : (members.lookup "schema").isSome = (members'.lookup "schema").isSome

/-- Two schema documents that have the same keys, and the same values but for the specs below. -/
structure SameDocument (members members' : Members) : Prop where
  keys : ∀ key ≠ "fields", members.lookup key = members'.lookup key
  fields : (members.lookup "fields").map Json.outline = (members'.lookup "fields").map Json.outline

variable {members members' : Members}

lemma misfit_congr {key : String} (h : members.lookup key = members'.lookup key) (expected : String)
    (P : Json → Prop) [DecidablePred P] :
    members.misfit key expected P = members'.misfit key expected P := by
  rw [misfit, misfit, h]

/-- Whether there is a list depends on nothing in it. -/
lemma misfit_isArray_congr {key : String}
    (h : (members.lookup key).map Json.outline = (members'.lookup key).map Json.outline)
    (expected : String) :
    members.misfit key expected Json.IsArray = members'.misfit key expected Json.IsArray := by
  have hshown (members : Members) :
      members.misfit key expected Json.IsArray =
        if (members.lookup key).map Json.outline = some none
          then [.invalidValue key expected] else [] := by
    rw [misfit]
    generalize members.lookup key = value
    rcases value with _ | (_ | _ | _ | _ | _ | _) <;> simp [Json.IsArray, Json.outline]
  rw [hshown, hshown, h]

lemma length_tupleItems (members : Members) :
    members.tupleItems.length =
      (((members.lookup "fix_items").map Json.outline).getD none).getD 0 := by
  rw [tupleItems]
  generalize members.lookup "fix_items" = value
  rcases value with _ | (_ | _ | _ | _ | _ | _) <;> rfl

namespace SameSpec

/-- How items are described shows without the specs themselves. -/
lemma itemsDefects_eq (h : SameSpec members members') :
    members.itemsDefects = members'.itemsDefects := by
  have hitems := h.items
  have htuple : members.tupleItems.length = members'.tupleItems.length := by
    rw [length_tupleItems, length_tupleItems, h.tuple]
  simp only [itemsDefects]
  generalize members.lookup "items" = item at hitems ⊢
  generalize members'.lookup "items" = item' at hitems ⊢
  generalize members.tupleItems = specs at htuple ⊢
  generalize members'.tupleItems = specs' at htuple ⊢
  cases item <;> cases item' <;> cases specs <;> cases specs' <;> simp_all

/-- What is wrong with the keys of a kind shows without the specs below. -/
lemma kindDefects_eq (h : SameSpec members members') (kind : Kind) :
    members.kindDefects kind = members'.kindDefects kind := by
  have hmisfit (key expected : String) (hkey : key ∉ ["items", "fix_items", "schema"])
      (P : Json → Prop) [DecidablePred P] :
      members.misfit key expected P = members'.misfit key expected P :=
    misfit_congr (h.keys key hkey) expected P
  cases kind with
  | integer | float | boolean => simp [kindDefects, limitDefects, hmisfit]
  | string =>
      simp [kindDefects, lengthDefects, formatDefects, hmisfit, h.keys "format" (by decide)]
  | array =>
      simp [kindDefects, lengthDefects, hmisfit, misfit_isArray_congr h.tuple, h.itemsDefects_eq]
  | object =>
      have hschema := h.schema
      simp only [kindDefects]
      cases hl : members.lookup "schema" <;> cases hl' : members'.lookup "schema" <;> simp_all
  | null => rfl

/-- What is wrong with a field spec itself shows without the specs below. -/
lemma specDefects_eq (h : SameSpec members members') :
    members.specDefects = members'.specDefects := by
  have htype := h.keys "type" (by decide)
  have hname := h.keys "name" (by decide)
  have hkinds : members.kindDefects = members'.kindDefects := funext h.kindDefects_eq
  simp only [specDefects, typeDefects, nameDefects, kind?, htype, hname, hkinds,
    misfit_congr (h.keys "required" (by decide))]

end SameSpec

/-- What is wrong with a document itself shows without its specs. -/
lemma SameDocument.documentDefects_eq (h : SameDocument members members') :
    members.documentDefects = members'.documentDefects := by
  have hfields := h.fields
  simp only [documentDefects]
  rw [misfit_congr (h.keys "strict" (by decide))]
  generalize members.lookup "fields" = value at hfields ⊢
  generalize members'.lookup "fields" = value' at hfields ⊢
  rcases value with _ | (_ | _ | _ | _ | _ | _) <;>
    rcases value' with _ | (_ | _ | _ | _ | _ | _) <;> simp_all [Json.outline]

end Members

namespace SpecSite

/-- Two specs at one place that have the same keys, and the same values but for the specs below. -/
def SameSurface : SpecSite → SpecSite → Prop
  | ⟨path, .field, .object members⟩, ⟨path', .field, .object members'⟩ =>
    path = path' ∧ Members.SameSpec members members'
  | ⟨path, .document, .object members⟩, ⟨path', .document, .object members'⟩ =>
    path = path' ∧ Members.SameDocument members members'
  | _, _ => False

lemma SameSurface.path_eq {site site' : SpecSite} (h : site.SameSurface site') :
    site.path = site'.path := by
  simp only [SameSurface] at h
  split at h
  · exact h.1
  · exact h.1
  · exact h.elim

lemma SameSurface.defects_eq {site site' : SpecSite} (h : site.SameSurface site') :
    site.defects = site'.defects := by
  simp only [SameSurface] at h
  split at h
  · exact h.2.specDefects_eq
  · exact h.2.documentDefects_eq
  · exact h.elim

/-! ### Exchanging a spec -/

/-- The specs `site` and `site'` are the same but for one spec in them, which is `old` in the first
and `new` in the second. -/
inductive Exchanged (old new : SpecSite) : SpecSite → SpecSite → Prop
  | here : Exchanged old new old new
  | inside {site site' child child' : SpecSite} {left right : List SpecSite} :
      site.SameSurface site' →
      site.children = left ++ child :: right →
      site'.children = left ++ child' :: right →
      Exchanged old new child child' → Exchanged old new site site'

/-- **Defects stay where they are**: the listings of two specs that differ in one spec in them have
its defects between the same others. -/
theorem Exchanged.exists_errors_eq {old new site site' : SpecSite}
    (h : Exchanged old new site site') :
    ∃ before behind, site.errors = before ++ old.errors ++ behind ∧
      site'.errors = before ++ new.errors ++ behind := by
  induction h with
  | here => exact ⟨[], [], by simp, by simp⟩
  | @inside site site' child child' left right hsurface hchildren hchildren' _ ih =>
      obtain ⟨before, behind, hold, hnew⟩ := ih
      refine ⟨site.defects.map (SpecError.mk site.path) ++ left.flatMap errors ++ before,
        behind ++ right.flatMap errors, ?_, ?_⟩
      · rw [errors_eq site, hchildren]
        simp [hold]
      · rw [errors_eq site', hchildren', ← hsurface.defects_eq, ← hsurface.path_eq]
        simp [hnew]

end SpecSite

/-! ### Reading a document -/

lemma Schema.errors_ofSpec (document : Json) :
    (Schema.ofSpec document).errors = SpecSite.errors ⟨[], .document, document⟩ := by
  rw [(lists document).2 [], SpecError.within_nil, List.map_id]

lemma Schema.exists_ofSpec_eq_ok_iff (document : Json) :
    (∃ schema, Schema.ofSpec document = .ok schema) ↔
      SpecSite.errors ⟨[], .document, document⟩ = [] := by
  rw [← errors_ofSpec]
  exact (told document).2.exists_ok_iff

/-- **Reading a document is listing its defects**: the defects found are those listed, there is a
schema exactly when none is listed, and exchanging a spec exchanges its defects and no other. -/
theorem Schema.errors_ofSpec_eq_listing (document : Json) :
    (Schema.ofSpec document).errors = SpecSite.errors ⟨[], .document, document⟩ ∧
      ((∃ schema, Schema.ofSpec document = .ok schema) ↔
        SpecSite.errors ⟨[], .document, document⟩ = []) ∧
      ∀ document' old new,
        SpecSite.Exchanged old new ⟨[], .document, document⟩ ⟨[], .document, document'⟩ →
          ∃ before behind,
            (Schema.ofSpec document).errors = before ++ old.errors ++ behind ∧
              (Schema.ofSpec document').errors = before ++ new.errors ++ behind := by
  refine ⟨errors_ofSpec document, exists_ofSpec_eq_ok_iff document, ?_⟩
  intro document' old new hexchanged
  rw [errors_ofSpec, errors_ofSpec]
  exact hexchanged.exists_errors_eq

/-- A document with one array field, which has a spec for all items and, in conflict with it, a
broken spec for its first item. -/
def conflictingDocument (item : Json) : Json :=
  .object [("fields", .array [.object [("name", .string "tags"), ("type", .string "array"),
    ("items", item), ("fix_items", .array [.null])]])]

/-- Giving a name to the spec for all items leaves the conflict, and what is said of the other. -/
theorem Schema.errors_ofSpec_conflictingDocument :
    let old : SpecSite :=
      ⟨[.key "tags", .key "items"], .field, .object [("type", .string "null")]⟩
    let new : SpecSite := ⟨[.key "tags", .key "items", .key "tag"], .field,
      .object [("name", .string "tag"), ("type", .string "null")]⟩
    SpecSite.Exchanged old new ⟨[], .document, conflictingDocument old.value⟩
        ⟨[], .document, conflictingDocument new.value⟩ ∧
      ∃ before behind,
        (Schema.ofSpec (conflictingDocument old.value)).errors =
          before ++ old.errors ++ behind ∧
        (Schema.ofSpec (conflictingDocument new.value)).errors =
          before ++ new.errors ++ behind := by
  intro old new
  have hexchanged : SpecSite.Exchanged old new ⟨[], .document, conflictingDocument old.value⟩
      ⟨[], .document, conflictingDocument new.value⟩ := by
    refine @SpecSite.Exchanged.inside old new _ _ _ _ [] [] ⟨rfl, ?_, rfl⟩ rfl rfl ?_
    · intro key hkey
      simp [List.lookup_cons, beq_false_of_ne hkey]
    refine @SpecSite.Exchanged.inside old new _ _ _ _ [] _ ⟨rfl, ?_, rfl, rfl, rfl⟩ rfl rfl .here
    intro key hkey
    have hitems : key ≠ "items" := fun heq => hkey (heq ▸ List.mem_cons_self)
    simp [List.lookup_cons, beq_false_of_ne hitems]
  exact ⟨hexchanged, (errors_ofSpec_eq_listing _).2.2 _ old new hexchanged⟩

end SchemaCheck
