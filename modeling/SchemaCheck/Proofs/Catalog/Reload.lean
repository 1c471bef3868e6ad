import Mathlib.Tactic.Common
import SchemaCheck.Catalog
import SchemaCheck.Proofs.Catalog.Bundle
import SchemaCheck.Proofs.Spec.Reread

/-!
# Catalogs that are loaded again

What is loaded of a catalog that was written as a bundle.

* `Schema.reloaded`: what is loaded of the document of a schema, once it has been written.
* `Catalog.exists_load_bundle_iff`: the bundle can be loaded exactly where this is so of each schema
  and no document nests more than 125 arrays and objects, two less than a document may that stands
  in a file of its own.  `Catalog.get?_load_bundle`: what is loaded then.
* `Catalog.exists_document_of_load`: a loaded schema was read from a document.
* `Catalog.exists_same_reloaded_iff`: a loaded catalog is loaded again as an equal one exactly where
  its documents nest no deeper than that and its limits are kept.  `Field.nest` gives one that is
  not.
-/

namespace SchemaCheck

/-! ### Values by name -/

namespace NameMap

variable {α : Type} {pairs : List (String × α)}

/-- Pairs with different names hide what a map had under these names, and nothing else. -/
lemma get?_foldl_insert (h : (pairs.map Prod.fst).Nodup) (map : NameMap α) (name : String) :
    (pairs.foldl (fun map pair => map.insert pair.1 pair.2) map).get? name =
      (pairs.lookup name).or (map.get? name) := by
  induction pairs generalizing map with
  | nil => rfl
  | cons pair pairs ih =>
      rw [List.map_cons, List.nodup_cons] at h
      rw [List.foldl_cons, ih h.2, get?_insert, List.lookup_cons]
      by_cases hname : name = pair.1
      · have hnone : pairs.lookup name = none := by
          rw [List.lookup_eq_none_iff]
          intro pair' hmem
          rw [hname, bne_iff_ne]
          exact fun heq => h.1 (heq ▸ List.mem_map_of_mem hmem)
        rw [if_pos hname, hnone, beq_iff_eq.2 hname]
        rfl
      · rw [if_neg hname, beq_eq_false_iff_ne.2 hname]

/-- Distinct names keep their values. -/
lemma get?_ofList (h : (pairs.map Prod.fst).Nodup) (name : String) :
    (ofList pairs).get? name = pairs.lookup name := by
  rw [ofList, get?_foldl_insert h]
  exact Option.or_none

/-- An entry is one of the pairs that were put in, or was there before. -/
lemma mem_foldl_insert {map : NameMap α} {entry : String × α}
    (h : entry ∈ (pairs.foldl (fun map pair => map.insert pair.1 pair.2) map).entries) :
    entry ∈ pairs ∨ entry ∈ map.entries := by
  induction pairs generalizing map with
  | nil => exact .inr h
  | cons pair pairs ih =>
      rcases ih h with hmem | hmem
      · exact .inl (List.mem_cons_of_mem _ hmem)
      · rcases mem_place hmem with rfl | hmem
        · exact .inl List.mem_cons_self
        · exact .inr hmem

lemma mem_of_get?_ofList {name : String} {value : α} (h : (ofList pairs).get? name = some value) :
    (name, value) ∈ pairs :=
  (mem_foldl_insert (mem_entries_iff.2 h)).resolve_right List.not_mem_nil

end NameMap

/-! ### Results of lists -/

section Results

variable {ε α β : Type} {f : α → Option β} {entries : List (String × α)}
  {pairs : List (String × β)}

lemma toOption_mapM (f : α → Except ε β) (xs : List α) :
    (xs.mapM f).toOption = xs.mapM fun x => (f x).toOption := by
  induction xs with
  | nil => rfl
  | cons x xs ih =>
      rw [List.mapM_cons, List.mapM_cons, ← ih]
      cases f x with
      | error error => rfl
      | ok y => cases xs.mapM f <;> rfl

lemma toOption_eq_some_iff {x : Except ε α} {a : α} : x.toOption = some a ↔ x = .ok a :=
  ⟨Json.eq_ok_of_toOption, fun h => by rw [h]; rfl⟩

/-- Names stay, where values alone are converted. -/
lemma map_fst_of_mapM
    (h : entries.mapM (fun entry => (f entry.2).map (entry.1, ·)) = some pairs) :
    pairs.map Prod.fst = entries.map Prod.fst := by
  replace h := forall₂_of_mapM h
  induction h with
  | nil => rfl
  | cons hpair _ ih =>
      obtain ⟨value, -, rfl⟩ := Option.map_eq_some_iff.1 hpair
      rw [List.map_cons, List.map_cons, ih]

/-- The value under a name is the converted one. -/
lemma lookup_of_mapM
    (h : entries.mapM (fun entry => (f entry.2).map (entry.1, ·)) = some pairs) (name : String) :
    pairs.lookup name = (entries.lookup name).bind f := by
  replace h := forall₂_of_mapM h
  induction h with
  | nil => rfl
  | @cons entry _ entries _ hpair _ ih =>
      obtain ⟨value, hvalue, rfl⟩ := Option.map_eq_some_iff.1 hpair
      rw [List.lookup_cons, List.lookup_cons, ih]
      cases name == entry.1 with
      | true => exact hvalue.symm
      | false => rfl

end Results

/-! ### Bundles that are loaded -/

/-- What is loaded of the document of the schema, once it has been written. -/
def Schema.reloaded (schema : Schema) : Option Schema :=
  schema.toSpec.reread.bind fun document => (Schema.ofSpec document).toOption

/-- A schema that was read is loaded again as an equal one exactly where its limits are kept. -/
lemma Schema.exists_same_reloaded_iff_limitsKept {document : Json} {schema : Schema}
    (h : Schema.ofSpec document = .ok schema) :
    (∃ schema', schema.reloaded = some schema' ∧ schema.same schema' = true) ↔
      schema.Everywhere Field.LimitsKept := by
  rw [← exists_ofSpec_reread_iff h]
  constructor
  · rintro ⟨schema', hreloaded, hsame⟩
    obtain ⟨document', hread, hspec⟩ := Option.bind_eq_some_iff.1 hreloaded
    exact ⟨document', schema', hread, toOption_eq_some_iff.1 hspec, hsame⟩
  · rintro ⟨document', schema', hread, hspec, hsame⟩
    exact ⟨schema', Option.bind_eq_some_iff.2 ⟨document', hread, toOption_eq_some_iff.2 hspec⟩,
      hsame⟩

/-- Reading the written documents and loading what was read is loading each document again. -/
lemma bind_rereadMembers (entries : List (String × Schema)) :
    ((Json.rereadMembers (entries.map fun entry => (entry.1, entry.2.toSpec))).bind
      fun documents => documents.mapM fun document =>
        (Schema.ofSpec document.2).toOption.map (document.1, ·)) =
      entries.mapM fun entry => entry.2.reloaded.map (entry.1, ·) := by
  induction entries with
  | nil => rfl
  | cons entry entries ih =>
      rw [List.map_cons, Json.rereadMembers, List.mapM_cons, ← ih, Schema.reloaded]
      cases entry.2.toSpec.reread with
      | none => rfl
      | some document =>
          cases Json.rereadMembers (entries.map fun entry => (entry.1, entry.2.toSpec)) with
          | none => cases hschema : (Schema.ofSpec document).toOption <;> simp [hschema]
          | some documents => simp [List.mapM_cons]

namespace Catalog

variable {files copies : Files} {origin : Origin} {catalog reloaded : Catalog} {path : String}

/-- A bundle gives the schemas of its documents, all of them or none. -/
lemma toOption_loadBundle {bytes : Json.Bytes} (hbytes : files.read path = .ok bytes) :
    (loadBundle files path).toOption = (Bundle.read bytes).toOption.bind fun documents =>
      documents.mapM fun document => (Schema.ofSpec document.2).toOption.map (document.1, ·) := by
  rw [loadBundle, hbytes]
  dsimp only
  cases Bundle.read bytes with
  | error fault => rfl
  | ok documents =>
      dsimp only
      rw [toOption_mapM]
      refine congrArg (fun f => documents.mapM f) (funext fun document => ?_)
      rw [Schema.ofJson]
      cases Schema.ofSpec document.2 <;> rfl

/-- Each schema of a written bundle is loaded as it is of its own document, if all documents leave
room for the two levels above them. -/
lemma loadBundle_bundle_eq_ok_iff {pairs : List (String × Schema)}
    (hcopy : copies.read path = .ok (Json.bytesOf catalog.bundle)) :
    loadBundle copies path = .ok pairs ↔
      (∀ entry ∈ catalog.schemas.entries, entry.2.toSpec.depth ≤ 125) ∧
        catalog.schemas.entries.mapM (fun entry => entry.2.reloaded.map (entry.1, ·)) =
          some pairs := by
  have hdepth : Json.depthOfMembers (catalog.schemas.map Schema.toSpec).entries ≤ 125 ↔
      ∀ entry ∈ catalog.schemas.entries, entry.2.toSpec.depth ≤ 125 := by
    rw [Json.depthOfMembers_le_iff, NameMap.map, List.forall_mem_map]
  rw [← toOption_eq_some_iff, toOption_loadBundle hcopy, bundle, Bundle.toOption_read_write,
    ← bind_rereadMembers, ← hdepth]
  split
  · next hle => exact (and_iff_right hle).symm
  · next hgt => exact iff_of_false (fun h => by cases h) fun h => hgt h.1

lemma load_eq_ok_iff :
    load files origin = .ok catalog ↔
      ∃ pairs, loadSchemas files origin = .ok pairs ∧
        catalog = ⟨.ofList pairs, .origin origin⟩ := by
  rw [load]
  cases loadSchemas files origin with
  | error error => simp [Except.map]
  | ok pairs => simp [Except.map, eq_comm]

/-- **Whether a written bundle can be loaded.** -/
theorem exists_load_bundle_iff (hcopy : copies.read path = .ok (Json.bytesOf catalog.bundle)) :
    (∃ reloaded, load copies (.bundle path) = .ok reloaded) ↔
      ∀ name schema, catalog.get? name = some schema →
        schema.toSpec.depth ≤ 125 ∧ schema.reloaded.isSome = true := by
  have hpairs : (∃ reloaded, load copies (.bundle path) = .ok reloaded) ↔
      ∃ pairs, loadBundle copies path = .ok pairs := by
    constructor
    · rintro ⟨reloaded, hreload⟩
      obtain ⟨pairs, hpairs, -⟩ := load_eq_ok_iff.1 hreload
      exact ⟨pairs, hpairs⟩
    · rintro ⟨pairs, hpairs⟩
      exact ⟨_, load_eq_ok_iff.2 ⟨pairs, hpairs, rfl⟩⟩
  calc (∃ reloaded, load copies (.bundle path) = .ok reloaded)
      ↔ (∀ entry ∈ catalog.schemas.entries, entry.2.toSpec.depth ≤ 125) ∧
          (catalog.schemas.entries.mapM fun entry : String × Schema =>
            entry.2.reloaded.map (entry.1, ·)).isSome = true := by
        rw [hpairs, Option.isSome_iff_exists, ← exists_and_left]
        exact exists_congr fun pairs => loadBundle_bundle_eq_ok_iff hcopy
    _ ↔ ∀ entry ∈ catalog.schemas.entries,
          entry.2.toSpec.depth ≤ 125 ∧ entry.2.reloaded.isSome = true := by
        simp only [Json.isSome_mapM_iff, Option.isSome_map, imp_and, forall_and]
    _ ↔ ∀ name schema, catalog.get? name = some schema →
          schema.toSpec.depth ≤ 125 ∧ schema.reloaded.isSome = true := by
        rw [Prod.forall]
        exact forall₂_congr fun name schema => imp_congr_left NameMap.mem_entries_iff

/-- **What is loaded of a written bundle**, name by name. -/
theorem get?_load_bundle (hcopy : copies.read path = .ok (Json.bytesOf catalog.bundle))
    (h : load copies (.bundle path) = .ok reloaded) (name : String) :
    reloaded.get? name = (catalog.get? name).bind Schema.reloaded := by
  obtain ⟨pairs, hpairs, rfl⟩ := load_eq_ok_iff.1 h
  obtain ⟨-, hread⟩ := (loadBundle_bundle_eq_ok_iff hcopy).1 hpairs
  have hnames : (pairs.map Prod.fst).Nodup :=
    map_fst_of_mapM hread ▸ catalog.schemas.nodup_names
  rw [get?, NameMap.get?_ofList hnames, lookup_of_mapM hread, get?, NameMap.get?]

/-! ### Catalogs that were loaded -/

lemma load_file_of_ofBytes {bytes : Json.Bytes} {schema : Schema}
    (hread : files.read path = .ok bytes) (h : Schema.ofBytes bytes = .ok schema) :
    load files (.file path) =
      .ok ⟨.ofList [(Files.stem path, schema)], .origin (.file path)⟩ := by
  have hdocument : loadDocument files path = .ok (Files.stem path, schema) := by
    rw [loadDocument, hread]
    simp only [h]
  rw [load, loadSchemas, hdocument]
  rfl

/-- A schema that is loaded from a file is described by a document. -/
lemma exists_document_of_loadDocument {pair : String × Schema}
    (h : loadDocument files path = .ok pair) :
    ∃ document, Schema.ofSpec document = .ok pair.2 := by
  rw [loadDocument] at h
  split at h
  · cases h
  · split at h
    · next schema hschema =>
        obtain ⟨document, -, hspec⟩ := Schema.exists_document_of_ofBytes hschema
        obtain rfl := Except.ok.inj h
        exact ⟨document, hspec⟩
    · cases h

lemma exists_document_of_loadDirectory {pairs : List (String × Schema)}
    (h : loadDirectory files path = .ok pairs) :
    ∀ pair ∈ pairs, ∃ document, Schema.ofSpec document = .ok pair.2 := by
  rw [loadDirectory] at h
  split at h
  · cases h
  · intro pair hmem
    rw [← toOption_eq_some_iff, toOption_mapM] at h
    obtain ⟨name, -, hread⟩ := exists_of_mapM h pair hmem
    exact exists_document_of_loadDocument (toOption_eq_some_iff.1 hread)

/-- A schema that is loaded from a bundle is described by a document. -/
lemma exists_document_of_loadBundle {pairs : List (String × Schema)}
    (h : loadBundle files path = .ok pairs) :
    ∀ pair ∈ pairs, ∃ document, Schema.ofSpec document = .ok pair.2 := by
  cases hbytes : files.read path with
  | error error =>
      rw [loadBundle, hbytes] at h
      cases error <;> cases h
  | ok bytes =>
      intro pair hmem
      rw [← toOption_eq_some_iff, toOption_loadBundle hbytes] at h
      obtain ⟨documents, -, hread⟩ := Option.bind_eq_some_iff.1 h
      obtain ⟨document, -, hdocument⟩ := exists_of_mapM hread pair hmem
      obtain ⟨schema, hschema, rfl⟩ := Option.map_eq_some_iff.1 hdocument
      exact ⟨document.2, toOption_eq_some_iff.1 hschema⟩

/-- **A loaded schema was read from a document**, wherever it was loaded from. -/
theorem exists_document_of_load (h : load files origin = .ok catalog) {name : String}
    {schema : Schema} (hget : catalog.get? name = some schema) :
    ∃ document, Schema.ofSpec document = .ok schema := by
  obtain ⟨pairs, hpairs, rfl⟩ := load_eq_ok_iff.1 h
  have hmem : (name, schema) ∈ pairs := NameMap.mem_of_get?_ofList hget
  cases origin with
  | file path =>
      cases hread : loadDocument files path with
      | error error =>
          rw [loadSchemas, hread] at hpairs
          cases hpairs
      | ok pair =>
          rw [loadSchemas, hread] at hpairs
          obtain rfl := Except.ok.inj hpairs
          obtain rfl := List.mem_singleton.1 hmem
          exact exists_document_of_loadDocument hread
  | directory path => exact exists_document_of_loadDirectory hpairs _ hmem
  | bundle path => exact exists_document_of_loadBundle hpairs _ hmem

/-- **Loading a saved catalog.**  A catalog that was loaded is loaded again from the bundle that it
is written as, with the same names and an equal schema under each, exactly where the document of
each schema nests at most 125 arrays and objects and each of its limits is read from its text as an
equal number. -/
theorem exists_same_reloaded_iff (hload : load files origin = .ok catalog)
    (hcopy : copies.read path = .ok (Json.bytesOf catalog.bundle)) :
    (∃ reloaded, load copies (.bundle path) = .ok reloaded ∧
      ∀ name, Option.Rel (fun schema schema' => schema.same schema' = true)
        (catalog.get? name) (reloaded.get? name)) ↔
      ∀ name schema, catalog.get? name = some schema →
        schema.toSpec.depth ≤ 125 ∧ schema.Everywhere Field.LimitsKept := by
  have hkept : ∀ name schema, catalog.get? name = some schema →
      ((∃ schema', schema.reloaded = some schema' ∧ schema.same schema' = true) ↔
        schema.Everywhere Field.LimitsKept) := by
    intro name schema hget
    obtain ⟨document, hspec⟩ := exists_document_of_load hload hget
    exact Schema.exists_same_reloaded_iff_limitsKept hspec
  constructor
  · rintro ⟨reloaded, hreload, hsame⟩ name schema hget
    obtain ⟨hdepth, hsome⟩ :=
      (exists_load_bundle_iff hcopy).1 ⟨reloaded, hreload⟩ name schema hget
    obtain ⟨schema', hschema'⟩ := Option.isSome_iff_exists.1 hsome
    have hrel := hsame name
    rw [get?_load_bundle hcopy hreload, hget, Option.bind_some, hschema'] at hrel
    cases hrel with
    | some hsame => exact ⟨hdepth, (hkept name schema hget).1 ⟨schema', hschema', hsame⟩⟩
  · intro h
    have hreloads : ∀ name schema, catalog.get? name = some schema →
        schema.toSpec.depth ≤ 125 ∧ schema.reloaded.isSome = true := by
      intro name schema hget
      obtain ⟨hdepth, hlimits⟩ := h name schema hget
      obtain ⟨schema', hschema', -⟩ := (hkept name schema hget).2 hlimits
      exact ⟨hdepth, Option.isSome_of_eq_some hschema'⟩
    obtain ⟨reloaded, hreload⟩ := (exists_load_bundle_iff hcopy).2 hreloads
    refine ⟨reloaded, hreload, fun name => ?_⟩
    rw [get?_load_bundle hcopy hreload]
    cases hget : catalog.get? name with
    | none => exact .none
    | some schema =>
        obtain ⟨schema', hschema', hsame⟩ := (hkept name schema hget).2 (h name schema hget).2
        rw [Option.bind_some, hschema']
        exact .some hsame

/-- A limit of one half. -/
theorem exists_same_reloaded_half :
    let text := "\x7b\n  \"fields\": [\n    \x7b\n      \"name\": \"x\",\n" ++
      "      \"type\": \"float\",\n      \"min\": 0.5\n    \x7d\n  ]\n\x7d\n"
    let files : Files := ⟨fun _ => .ok (Json.bytesOf text), fun _ => .error .notDirectory⟩
    let half : Binary64.Finite := ⟨false, Nat.pow 2 52, 1021, by decide, by decide, by decide⟩
    let rules : Rules Binary64 := ⟨some (.finite half), none, none, none⟩
    let schema : Schema := ⟨[.float "x" false rules], false⟩
    let catalog : Catalog := ⟨.ofList [(Files.stem "s.json", schema)], .origin (.file "s.json")⟩
    let copies : Files :=
      ⟨fun _ => .ok (Json.bytesOf catalog.bundle), fun _ => .error .notDirectory⟩
    load files (.file "s.json") = .ok catalog ∧
      copies.read "b.json" = .ok (Json.bytesOf catalog.bundle) ∧
      ∃ reloaded, load copies (.bundle "b.json") = .ok reloaded ∧
        ∀ name, Option.Rel (fun schema schema' => schema.same schema' = true)
          (catalog.get? name) (reloaded.get? name) := by
  intro text files half rules schema catalog copies
  have hback : (Json.Number.float half).ReadsBack := by decide +kernel
  have hrules : rules.All (· = .finite half) := ⟨by simp [rules], by simp [rules], by simp [rules]⟩
  have hlegible : schema.Everywhere Field.LegibleLimits :=
    ⟨hrules.imp fun x hx => ⟨half, hx, hback⟩, trivial⟩
  have hrep : schema.Representable :=
    ⟨⟨by decide, hrules.imp fun x hx => ⟨half, hx⟩⟩, trivial⟩
  have htext : text = schema.toSpec.pretty ++ "\n" := by decide +kernel
  have hbytes : Schema.ofBytes (Json.bytesOf text) = .ok schema := by
    rw [htext]
    exact Schema.ofBytes_pretty (fun _ => id) hrep hlegible (by decide +kernel)
  have hload : load files (.file "s.json") = .ok catalog := load_file_of_ofBytes rfl hbytes
  refine ⟨hload, rfl, (exists_same_reloaded_iff hload rfl).2 fun name schema' hget => ?_⟩
  have hmem : (name, schema') ∈ [(Files.stem "s.json", schema)] := NameMap.mem_of_get?_ofList hget
  obtain rfl : schema' = schema := congrArg Prod.snd (List.mem_singleton.1 hmem)
  have hkept : rules.All Binary64.Kept := by
    refine hrules.imp ?_
    rintro x rfl
    exact Binary64.kept_finite hback
  exact ⟨by decide +kernel, hkept, trivial⟩

end Catalog

/-! ### A schema that is too deep for a bundle -/

namespace Field

/-- Lists in lists, that many of them. -/
def nest : Nat → Field
  | 0 => .null "x"
  | n + 1 => .list "x" false {} (nest n)

/-- Each list adds its own spec around that of its items. -/
lemma depth_nest (n : Nat) : (nest n).toSpec.depth = n + 1 := by
  induction n with
  | zero => decide +kernel
  | succ n ih =>
      have hspec : (nest (n + 1)).toSpec = .object [("name", .string "x"),
          ("type", .string "array"), ("items", (nest n).toSpec)] := by
        rw [nest, toSpec]
        rfl
      rw [hspec]
      simp [Json.depth, Json.depthOfMembers, ih]

lemma representable_nest (n : Nat) : (nest n).Representable := by
  induction n with
  | zero => exact ⟨by decide, trivial⟩
  | succ n ih =>
      have hname : (nest (n + 1)).name ≠ "" := (by decide : "x" ≠ "")
      exact ⟨⟨hname, by simp, by simp⟩, ih⟩

lemma noFloatLimits_nest (n : Nat) : (nest n).Everywhere NoFloatLimits := by
  induction n with
  | zero => trivial
  | succ n ih => exact ⟨trivial, ih⟩

end Field

/-- **A catalog that is not loaded again**: a file nests 126 arrays and objects, which is less than
a text may, and is one more than a bundle leaves room for. -/
theorem Catalog.not_exists_reloaded_nest :
    let schema : Schema := ⟨[.nest 123], false⟩
    let files : Files :=
      ⟨fun _ => .ok (Json.bytesOf (schema.toSpec.pretty ++ "\n")), fun _ => .error .notDirectory⟩
    let catalog : Catalog := ⟨.ofList [(Files.stem "s.json", schema)], .origin (.file "s.json")⟩
    let copies : Files :=
      ⟨fun _ => .ok (Json.bytesOf catalog.bundle), fun _ => .error .notDirectory⟩
    load files (.file "s.json") = .ok catalog ∧
      copies.read "b.json" = .ok (Json.bytesOf catalog.bundle) ∧
      ¬∃ reloaded, load copies (.bundle "b.json") = .ok reloaded := by
  intro schema files catalog copies
  have hdepth : schema.toSpec.depth = 126 := by
    change (Json.object [("fields", .array [(Field.nest 123).toSpec])]).depth = 126
    simp [Json.depth, Json.depthOfMembers, Json.depthOfItems, Field.depth_nest]
  have hbytes : Schema.ofBytes (Json.bytesOf (schema.toSpec.pretty ++ "\n")) = .ok schema := by
    have hrep : schema.Representable := ⟨Field.representable_nest 123, trivial⟩
    have hlimits : schema.Everywhere Field.NoFloatLimits := ⟨Field.noFloatLimits_nest 123, trivial⟩
    have hroom : schema.toSpec.depth ≤ Json.depthLimit := hdepth ▸ by decide
    exact Schema.ofBytes_pretty (fun _ => Field.NoFloatLimits.legibleLimits) hrep hlimits hroom
  refine ⟨load_file_of_ofBytes rfl hbytes, rfl, fun hreload => ?_⟩
  have hget : catalog.get? (Files.stem "s.json") = some schema := by
    have hnames : ([(Files.stem "s.json", schema)].map Prod.fst).Nodup :=
      List.pairwise_singleton _ _
    rw [get?, NameMap.get?_ofList hnames, List.lookup_cons_self]
  have hle := ((exists_load_bundle_iff rfl).1 hreload _ _ hget).1
  omega

end SchemaCheck
