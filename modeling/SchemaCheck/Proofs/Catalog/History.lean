import Mathlib.Tactic.Common
import SchemaCheck.Proofs.Catalog.Chain
import SchemaCheck.Proofs.Spec.Legible
import SchemaCheck.Proofs.Text.ByteOrder

/-!
# Written catalogs

What is written of a catalog depends on the schemas that are in it, and on nothing of how they came
to be there.

* `Catalog.History`: how a catalog comes about, with the schemas that were put into it.
  `Catalog.History.schemas_eq`, by induction on it: these are its schemas, the last one under each
  name.
* `Catalog.bundleOf`: what is written of schemas that are listed in some order.  `ofList_of_perm`:
  the order of the listing is lost.
* `Catalog.bundle_of_history`: what is written of a catalog with a history, and that it is read back
  as what was written.
-/

namespace SchemaCheck

namespace NameMap

variable {α : Type} {pairs : List (String × α)}

/-- Of the values under a name the last one counts. -/
lemma get?_foldl_insert_last (pairs : List (String × α)) (map : NameMap α) (name : String) :
    (pairs.foldl (fun map pair => map.insert pair.1 pair.2) map).get? name =
      (pairs.reverse.lookup name).or (map.get? name) := by
  induction pairs generalizing map with
  | nil => rfl
  | cons pair pairs ih =>
      have hsingle : [pair].lookup name = if name = pair.1 then some pair.2 else none := by
        rw [List.lookup_cons, List.lookup_nil]
        by_cases hname : name = pair.1
        · rw [if_pos hname, beq_iff_eq.2 hname]
        · rw [if_neg hname, beq_eq_false_iff_ne.2 hname]
      rw [List.foldl_cons, ih, get?_insert, List.reverse_cons, List.lookup_append, hsingle,
        Option.or_assoc]
      split <;> rfl

lemma get?_ofList_last (pairs : List (String × α)) (name : String) :
    (ofList pairs).get? name = pairs.reverse.lookup name := by
  rw [ofList, get?_foldl_insert_last]
  exact Option.or_none

/-- Entries that are listed in another order give the same map. -/
lemma ofList_of_perm {map : NameMap α} (h : pairs.Perm map.entries) : ofList pairs = map := by
  have hnames : (pairs.map Prod.fst).Nodup := (h.map Prod.fst).nodup_iff.2 map.nodup_names
  refine ext_get? fun name => Option.ext fun value => ?_
  rw [get?_ofList hnames, Json.lookup_eq_some_iff_mem hnames, h.mem_iff, mem_entries_iff]

end NameMap

namespace Catalog

/-- **The history of a catalog**: it is empty, or loaded from an origin or from a chain of them, and
then schemas are set in it.  What is listed are the schemas that were put into it, in their
order. -/
inductive History : Catalog → List (String × Schema) → Prop
  | empty : History empty []
  | load {files origin catalog log} (schemas : loadSchemas files origin = .ok log)
      (loads : load files origin = .ok catalog) : History catalog log
  | loadFirst {files origins catalog log}
      (schemas : origins.findSome? (fun origin => (loadSchemas files origin).toOption) = some log)
      (loads : loadFirst files origins = .ok catalog) : History catalog log
  | insert {catalog log} (history : History catalog log) (name : String) (schema : Schema) :
      History (catalog.insert name schema) (log ++ [(name, schema)])

/-- The text of schemas that are listed in some order. -/
def bundleOf (listing : List (String × Schema)) : String :=
  Bundle.write ((NameMap.ofList listing).map Schema.toSpec)

variable {files : Files} {catalog : Catalog} {log : List (String × Schema)}

/-- A chain of origins gives the schemas of the first one that has any to give. -/
lemma schemas_of_loadFirst {origins : List Origin}
    (hschemas : origins.findSome? (fun origin => (loadSchemas files origin).toOption) = some log)
    (hloads : Catalog.loadFirst files origins = .ok catalog) : catalog.schemas = .ofList log := by
  obtain ⟨before, origin, behind, loaded, rfl, hbefore, hload, rfl⟩ :=
    loadFirst_eq_ok_iff.1 hloads
  obtain ⟨pairs, hpairs, rfl⟩ := load_eq_ok_iff.1 hload
  have hnone : before.findSome? (fun origin => (loadSchemas files origin).toOption) = none := by
    refine List.findSome?_eq_none_iff.2 fun failing hmem => ?_
    have hfails := hbefore failing hmem
    rwa [Origin.loads_iff, Option.not_isSome_iff_eq_none] at hfails
  rw [List.findSome?_append, hnone, Option.none_or, List.findSome?_cons, hpairs] at hschemas
  obtain rfl := Option.some.inj hschemas
  rfl

/-- **The schemas of a catalog** are those that were put into it, the last one under each name. -/
lemma History.schemas_eq (h : History catalog log) : catalog.schemas = .ofList log := by
  induction h with
  | empty => rfl
  | load hschemas hloads =>
      obtain ⟨pairs, hpairs, rfl⟩ := load_eq_ok_iff.1 hloads
      obtain rfl := Except.ok.inj (hschemas.symm.trans hpairs)
      rfl
  | loadFirst hschemas hloads => exact schemas_of_loadFirst hschemas hloads
  | @insert catalog log _ name schema ih =>
      rw [Catalog.insert, ih, NameMap.ofList, NameMap.ofList, List.foldl_append]
      rfl

lemma History.get?_eq (h : History catalog log) (name : String) :
    catalog.get? name = log.reverse.lookup name := by
  rw [get?, h.schemas_eq, NameMap.get?_ofList_last]

/-- The object of a bundle is legible if its names are different and its documents legible. -/
lemma legible_bundle {documents : List (String × Json)} (hnames : (documents.map Prod.fst).Nodup)
    (hdocuments : ∀ document ∈ documents, document.2.Everywhere Json.Legible) :
    (Json.object [("schemas", .object documents)]).Everywhere Json.Legible :=
  (LegibleUnder.single (Json.legible_object hnames hdocuments)).object
    (List.pairwise_singleton _ _)

/-- A bundle is two levels deeper than its documents. -/
lemma depth_bundle_le_iff {documents : List (String × Json)} {n : Nat} :
    (Json.object [("schemas", .object documents)]).depth ≤ n + 2 ↔
      ∀ document ∈ documents, document.2.depth ≤ n := by
  rw [Json.depth, Json.depthOfMembers, Json.depth, Json.depthOfMembers, Nat.max_zero,
    Nat.succ_le_succ_iff, Nat.succ_le_succ_iff, Json.depthOfMembers_le_iff]

lemma bundleOf_eq_bundle {listing : List (String × Schema)}
    (h : listing.Perm catalog.schemas.entries) : bundleOf listing = catalog.bundle := by
  rw [bundleOf, NameMap.ofList_of_perm h, bundle]

/-- **Writing a catalog.**  In whatever order its schemas are listed, the text is that of one object
with the names of the catalog in the order of their bytes, each once, and under each name the
document of the schema that was put there last; and it is read as this object, if this can be read
at all.  Another catalog with the same schemas gives the same bytes, whatever the history of
either. -/
theorem bundle_of_history {listing : List (String × Schema)} (h : History catalog log)
    (hlisting : listing.Perm catalog.schemas.entries) :
    bundleOf listing = catalog.bundle ∧
    (∃ documents, bundleOf listing = (Json.object [("schemas", .object documents)]).pretty ∧
      documents.Pairwise (fun document document' =>
        Json.bytesOf document.1 < Json.bytesOf document'.1) ∧
      (∀ name document, (name, document) ∈ documents ↔
        ∃ schema, catalog.get? name = some schema ∧ log.reverse.lookup name = some schema ∧
          document = schema.toSpec) ∧
      ((Json.object [("schemas", .object documents)]).Everywhere Json.Legible →
        (Json.object [("schemas", .object documents)]).depth ≤ Json.depthLimit →
        Json.readText (bundleOf listing) = .ok (.object [("schemas", .object documents)]))) ∧
    ∀ catalog' log' listing', History catalog' log' → listing'.Perm catalog'.schemas.entries →
      (∀ name, catalog'.get? name = catalog.get? name) →
        Json.bytesOf (bundleOf listing') = Json.bytesOf (bundleOf listing) := by
  have htext : bundleOf listing =
      (Json.object [("schemas", .object (catalog.schemas.map Schema.toSpec).entries)]).pretty := by
    rw [bundleOf_eq_bundle hlisting]
    rfl
  refine ⟨bundleOf_eq_bundle hlisting, ⟨(catalog.schemas.map Schema.toSpec).entries, htext, ?_, ?_,
    fun hlegible hdepth => ?_⟩, fun catalog' log' listing' _ hlisting' hsame => ?_⟩
  · exact (catalog.schemas.map Schema.toSpec).sorted.imp Json.bytesOf_lt
  · intro name document
    rw [← h.get?_eq]
    simp [NameMap.map, NameMap.mem_entries_iff, get?, eq_comm]
  · rw [htext]
    exact Json.readText_pretty hlegible hdepth
  · have hschemas : catalog'.schemas = catalog.schemas := NameMap.ext_get? hsame
    rw [bundleOf_eq_bundle hlisting', bundleOf_eq_bundle hlisting, bundle, bundle, hschemas]

/-- Two histories with the same end: in one of them a schema is replaced. -/
theorem bundle_of_history_replaced :
    let plain : Schema := ⟨[], false⟩
    let strict : Schema := ⟨[], true⟩
    let catalog := (empty.insert "b" plain).insert "a" strict
    let catalog' := ((empty.insert "a" plain).insert "b" plain).insert "a" strict
    let listing := [("b", plain), ("a", strict)]
    let listing' := [("a", strict), ("b", plain)]
    History catalog [("b", plain), ("a", strict)] ∧
      History catalog' [("a", plain), ("b", plain), ("a", strict)] ∧
      listing.Perm catalog.schemas.entries ∧ listing'.Perm catalog'.schemas.entries ∧
      (∀ name, catalog'.get? name = catalog.get? name) ∧
      Json.bytesOf (bundleOf listing') = Json.bytesOf (bundleOf listing) ∧
      ∃ documents, bundleOf listing = (Json.object [("schemas", .object documents)]).pretty ∧
        ("a", strict.toSpec) ∈ documents ∧
        Json.readText (bundleOf listing) = .ok (.object [("schemas", .object documents)]) := by
  intro plain strict catalog catalog' listing listing'
  have history : History catalog [("b", plain), ("a", strict)] :=
    (History.empty.insert "b" plain).insert "a" strict
  have history' : History catalog' [("a", plain), ("b", plain), ("a", strict)] :=
    ((History.empty.insert "a" plain).insert "b" plain).insert "a" strict
  have hentries : catalog.schemas.entries = listing' := by cbv
  have hentries' : catalog'.schemas.entries = listing' := by cbv
  have hlisting : listing.Perm catalog.schemas.entries := hentries ▸ List.Perm.swap _ _ _
  have hlisting' : listing'.Perm catalog'.schemas.entries := hentries' ▸ List.Perm.refl _
  have hsame : ∀ name, catalog'.get? name = catalog.get? name := fun name => by
    rw [get?, get?, NameMap.get?, NameMap.get?, hentries, hentries']
  have hstrict : catalog.get? "a" = some strict := by
    rw [get?, NameMap.get?, hentries]
    rfl
  obtain ⟨-, ⟨documents, htext, hsorted, hdocuments, hread⟩, hcopies⟩ :=
    bundle_of_history history hlisting
  have hnames : (documents.map Prod.fst).Nodup :=
    List.pairwise_map.2 (hsorted.imp fun hlt heq => absurd (heq ▸ hlt) (List.lt_irrefl _))
  have hwritten : ∀ document ∈ documents, ∃ closed, document.2 = Schema.toSpec ⟨[], closed⟩ := by
    rintro ⟨name, document⟩ hmem
    obtain ⟨schema, hget, -, rfl⟩ := (hdocuments name document).1 hmem
    have hentry : (name, schema) ∈ listing' := hentries ▸ NameMap.mem_entries_iff.2 hget
    rcases List.mem_pair.1 hentry with hpair | hpair
    · exact ⟨true, congrArg Schema.toSpec (Prod.mk.inj hpair).2⟩
    · exact ⟨false, congrArg Schema.toSpec (Prod.mk.inj hpair).2⟩
  have hlegible := legible_bundle hnames fun document hmem => by
    obtain ⟨closed, hdocument⟩ := hwritten document hmem
    rw [hdocument]
    exact Schema.legible_of_fields (List.forall_mem_nil _)
  have hdepth := depth_bundle_le_iff.2 fun document hmem => show document.2.depth ≤ 125 by
    obtain ⟨closed, hdocument⟩ := hwritten document hmem
    rw [hdocument]
    cases closed <;> decide
  exact ⟨history, history', hlisting, hlisting', hsame,
    hcopies catalog' _ listing' history' hlisting' hsame, documents, htext,
    (hdocuments "a" strict.toSpec).2 ⟨strict, hstrict, rfl, rfl⟩, hread hlegible hdepth⟩

end Catalog

end SchemaCheck
