import Mathlib.Data.List.Nodup
import Mathlib.Tactic.Common
import SchemaCheck.Proofs.Catalog.Chain
import SchemaCheck.Proofs.Catalog.FileNames
import SchemaCheck.Proofs.Json.Values

/-!
# Catalogs of directories

What is loaded of a directory, whose entries have distinct names without slashes.

* `Catalog.documents`: the documents of a directory, each with the name that its schema gets and its
  path.  No name is given twice, as documents do not collide (`Catalog.eq_of_stem_eq`).
* `Catalog.load_directory_eq_ok_iff`: what a directory is loaded as, whatever the order of its
  entries.
* `Catalog.load_directory_of_list`: all of it together.
-/

namespace SchemaCheck

namespace NameMap

variable {α : Type} {pairs : List (String × α)}

/-- Pairs with distinct names are the entries, up to their order. -/
lemma perm_entries_ofList (h : (pairs.map Prod.fst).Nodup) : (ofList pairs).entries.Perm pairs := by
  have hentries := List.Nodup.of_map Prod.fst (ofList pairs).nodup_names
  refine (List.perm_ext_iff_of_nodup hentries (List.Nodup.of_map Prod.fst h)).2 ?_
  rintro ⟨name, value⟩
  rw [mem_entries_iff, get?_ofList h, Json.lookup_eq_some_iff_mem h]

end NameMap

/-- A list is converted into what its elements are converted into. -/
lemma mem_iff_of_mapM {α β : Type} {f : α → Option β} {xs : List α} {ys : List β}
    (h : xs.mapM f = some ys) {y : β} : y ∈ ys ↔ ∃ x ∈ xs, f x = some y := by
  replace h := forall₂_of_mapM h
  induction h with
  | nil => simp
  | cons hhead _ ih => simp [ih, hhead, eq_comm]

namespace Catalog

variable {files : Files} {path : String} {names : List String}

/-- A document is loaded from a file under the stem of its name. -/
lemma toOption_loadDocument (files : Files) (path : String) :
    (loadDocument files path).toOption =
      (Schema.ofFile files path).toOption.map (Files.stem path, ·) := by
  rw [loadDocument, Schema.ofFile]
  cases files.read path with
  | error error => rfl
  | ok bytes => cases hbytes : Schema.ofBytes bytes <;> simp [hbytes, Except.toOption]

/-- The documents of a directory with those entries: the names that their schemas get, and their
paths. -/
def documents (path : String) (names : List String) : List (String × String) :=
  (names.filter isDocumentName).map fun name =>
    (Files.stem (Files.join path name), Files.join path name)

/-- **Documents do not collide**, as all of them have the same extension. -/
lemma eq_of_stem_eq (hslash : ∀ name ∈ names, '/' ∉ name.toList) {name name' : String}
    (hmem : name ∈ names) (hdocument : isDocumentName name = true) (hmem' : name' ∈ names)
    (hdocument' : isDocumentName name' = true)
    (heq : Files.stem (Files.join path name) = Files.stem (Files.join path name')) :
    name = name' := by
  rw [← Files.stem_join_append (hslash name hmem) (eq_of_beq hdocument), heq,
    Files.stem_join_append (hslash name' hmem') (eq_of_beq hdocument')]

/-- Different files in a directory have different stems, so that no document hides another. -/
lemma nodup_documents (hnames : names.Nodup) (hslash : ∀ name ∈ names, '/' ∉ name.toList) :
    ((documents path names).map Prod.fst).Nodup := by
  rw [documents, List.map_map]
  refine List.Nodup.map_on (fun name hname name' hname' heq => ?_) (hnames.filter _)
  obtain ⟨hmem, hdocument⟩ := List.mem_filter.1 hname
  obtain ⟨hmem', hdocument'⟩ := List.mem_filter.1 hname'
  exact eq_of_stem_eq hslash hmem hdocument hmem' hdocument' heq

lemma toOption_loadDirectory (hlist : files.list path = .ok names) :
    (loadDirectory files path).toOption = (documents path names).mapM fun document =>
      (Schema.ofFile files document.2).toOption.map (document.1, ·) := by
  rw [loadDirectory, hlist, documents, List.mapM_map]
  simp only [toOption_mapM, toOption_loadDocument]
  rfl

/-- What is loaded of a directory: as many schemas as it has documents, and under the name of each
document its schema. -/
lemma schemas_of_load_directory {catalog : Catalog} (hlist : files.list path = .ok names)
    (hnames : names.Nodup) (hslash : ∀ name ∈ names, '/' ∉ name.toList)
    (h : load files (.directory path) = .ok catalog) :
    catalog.schemas.entries.length = names.countP isDocumentName ∧
      ∀ key schema, catalog.get? key = some schema ↔ ∃ name ∈ names,
        isDocumentName name = true ∧ Files.stem (Files.join path name) = key ∧
          Schema.ofFile files (Files.join path name) = .ok schema := by
  obtain ⟨pairs, hpairs, rfl⟩ := load_eq_ok_iff.1 h
  rw [loadSchemas, ← toOption_eq_some_iff, toOption_loadDirectory hlist] at hpairs
  have hfst := map_fst_of_mapM (f := fun p => (Schema.ofFile files p).toOption) hpairs
  have hperm := NameMap.perm_entries_ofList (hfst ▸ nodup_documents hnames hslash)
  constructor
  · have hlength := congrArg List.length hfst
    rw [List.length_map, List.length_map, documents, List.length_map] at hlength
    rw [hperm.length_eq, hlength, List.countP_eq_length_filter]
  · intro key schema
    rw [get?, ← NameMap.mem_entries_iff, hperm.mem_iff, mem_iff_of_mapM hpairs, documents]
    simp only [List.mem_map, List.mem_filter, Option.map_eq_some_iff, toOption_eq_some_iff,
      Prod.mk.injEq]
    constructor
    · rintro ⟨_, ⟨name, ⟨hmem, hdocument⟩, rfl⟩, _, hschema, hkey, rfl⟩
      exact ⟨name, hmem, hdocument, hkey, hschema⟩
    · rintro ⟨name, hmem, hdocument, hkey, hschema⟩
      exact ⟨_, ⟨name, ⟨hmem, hdocument⟩, rfl⟩, schema, hschema, hkey, rfl⟩

lemma source_of_load {origin : Origin} {catalog : Catalog}
    (h : load files origin = .ok catalog) : catalog.source = .origin origin := by
  obtain ⟨pairs, -, rfl⟩ := load_eq_ok_iff.1 h
  rfl

lemma loads_directory_iff_ofFile (hlist : files.list path = .ok names) :
    (Origin.directory path).Loads files ↔ ∀ name ∈ names, isDocumentName name = true →
      ∃ schema, Schema.ofFile files (Files.join path name) = .ok schema := by
  simp only [Origin.loads_directory_iff, hlist, Except.ok.injEq, exists_eq_left',
    Origin.loads_file_iff, toOption_loadDocument, Option.isSome_map, Option.isSome_iff_exists,
    toOption_eq_some_iff]

/-- **What a directory is loaded as.**  The order of the entries has no part in it. -/
theorem load_directory_eq_ok_iff {catalog : Catalog} (hlist : files.list path = .ok names)
    (hnames : names.Nodup) (hslash : ∀ name ∈ names, '/' ∉ name.toList) :
    load files (.directory path) = .ok catalog ↔
      catalog.source = .origin (.directory path) ∧
      (∀ name ∈ names, isDocumentName name = true →
        ∃ schema, Schema.ofFile files (Files.join path name) = .ok schema) ∧
      ∀ key schema, catalog.get? key = some schema ↔ ∃ name ∈ names,
        isDocumentName name = true ∧ Files.stem (Files.join path name) = key ∧
          Schema.ofFile files (Files.join path name) = .ok schema := by
  rw [← loads_directory_iff_ofFile hlist]
  constructor
  · intro h
    exact ⟨source_of_load h, ⟨catalog, h⟩, (schemas_of_load_directory hlist hnames hslash h).2⟩
  · rintro ⟨hsource, ⟨loaded, h⟩, hget⟩
    have hschemas : loaded.schemas = catalog.schemas := by
      refine NameMap.ext_get? fun key => Option.ext fun schema => ?_
      exact ((schemas_of_load_directory hlist hnames hslash h).2 key schema).trans
        (hget key schema).symm
    have heq : loaded = catalog := congrArg₂ mk hschemas ((source_of_load h).trans hsource.symm)
    rw [h, heq]

/-- **Loading a directory.**  A directory loads exactly if each of its entries with the extension of
documents holds a schema.  There are then as many schemas as such entries, each under the stem of
its entry and as that file gives it alone, and nothing else; no two of the entries have one stem,
and a listing in another order gives the same catalog. -/
theorem load_directory_of_list (hlist : files.list path = .ok names) (hnames : names.Nodup)
    (hslash : ∀ name ∈ names, '/' ∉ name.toList) :
    ((∃ catalog, load files (.directory path) = .ok catalog) ↔
      ∀ name ∈ names, isDocumentName name = true →
        ∃ schema, Schema.ofFile files (Files.join path name) = .ok schema) ∧
    (∀ catalog, load files (.directory path) = .ok catalog →
      catalog.schemas.entries.length = names.countP isDocumentName ∧
      (∀ name ∈ names, isDocumentName name = true →
        ∃ schema, Schema.ofFile files (Files.join path name) = .ok schema ∧
          catalog.get? (Files.stem (Files.join path name)) = some schema) ∧
      ∀ key schema, catalog.get? key = some schema → ∃ name ∈ names,
        isDocumentName name = true ∧ Files.stem (Files.join path name) = key ∧
          Schema.ofFile files (Files.join path name) = .ok schema) ∧
    (∀ name ∈ names, isDocumentName name = true → ∀ name' ∈ names, isDocumentName name' = true →
      Files.stem (Files.join path name) = Files.stem (Files.join path name') → name = name') ∧
    ∀ (copy : Files) (names' : List String), copy.read = files.read → names'.Perm names →
      copy.list path = .ok names' →
        (load copy (.directory path)).toOption = (load files (.directory path)).toOption := by
  refine ⟨loads_directory_iff_ofFile hlist, fun catalog h => ?_, ?_, ?_⟩
  · obtain ⟨hlength, hget⟩ := schemas_of_load_directory hlist hnames hslash h
    refine ⟨hlength, fun name hmem hdocument => ?_, fun key schema => (hget key schema).1⟩
    obtain ⟨schema, hschema⟩ :=
      (loads_directory_iff_ofFile hlist).1 ⟨catalog, h⟩ name hmem hdocument
    exact ⟨schema, hschema, (hget _ schema).2 ⟨name, hmem, hdocument, rfl, hschema⟩⟩
  · intro name hmem hdocument name' hmem' hdocument' heq
    exact eq_of_stem_eq hslash hmem hdocument hmem' hdocument' heq
  · intro copy names' hread hperm hlist'
    have hfile : Schema.ofFile copy = Schema.ofFile files := by
      funext path
      rw [Schema.ofFile, Schema.ofFile, hread]
    refine Option.ext fun catalog => ?_
    rw [toOption_eq_some_iff, toOption_eq_some_iff,
      load_directory_eq_ok_iff hlist' (hperm.nodup_iff.2 hnames) fun name hmem =>
        hslash name (hperm.mem_iff.1 hmem),
      load_directory_eq_ok_iff hlist hnames hslash, hfile]
    simp only [hperm.mem_iff]

/-- Two documents among four entries, listed in both directions. -/
theorem load_directory_two :
    let schema : Schema := ⟨[], false⟩
    let paths := ["s/b.json", "s/a.v2.json"]
    let text := fun path => if path ∈ paths then schema.toSpec.pretty ++ "\n" else "no schema"
    let names := ["b.json", "notes.txt", ".json", "a.v2.json"]
    let files : Files := ⟨fun path => .ok (Json.bytesOf (text path)), fun _ => .ok names⟩
    let copy : Files := ⟨files.read, fun _ => .ok names.reverse⟩
    files.list "s" = .ok names ∧ names.Nodup ∧ (∀ name ∈ names, '/' ∉ name.toList) ∧
      ∃ catalog, load files (.directory "s") = .ok catalog ∧ catalog.schemas.entries.length = 2 ∧
        catalog.get? "a.v2" = some schema ∧
          (load copy (.directory "s")).toOption = some catalog := by
  intro schema paths text names files copy
  have hnames : names.Nodup := by decide
  have hslash : ∀ name ∈ names, '/' ∉ name.toList := by decide
  have hread : ∀ path ∈ paths, Schema.ofFile files path = .ok schema := by
    intro path hmem
    have hbytes : files.read path = .ok (Json.bytesOf (schema.toSpec.pretty ++ "\n")) := by
      simp only [files, text, if_pos hmem]
    rw [Schema.ofFile, hbytes]
    have hlimits : schema.Everywhere Field.NoFloatLimits := trivial
    exact Schema.ofBytes_pretty (fun _ => Field.NoFloatLimits.legibleLimits) trivial hlimits
      (by decide +kernel)
  have hpaths : ∀ name ∈ names, isDocumentName name = true → Files.join "s" name ∈ paths := by
    decide +kernel
  obtain ⟨hloads, hload, -, hcopy⟩ :=
    @load_directory_of_list files "s" names rfl hnames hslash
  obtain ⟨catalog, hcatalog⟩ :=
    hloads.2 fun name hmem hdocument => ⟨schema, hread _ (hpaths name hmem hdocument)⟩
  obtain ⟨hlength, hget, -⟩ := hload catalog hcatalog
  refine ⟨rfl, hnames, hslash, catalog, hcatalog, hlength.trans (by decide), ?_, ?_⟩
  · obtain ⟨schema', hschema', hstem⟩ := hget "a.v2.json" (by decide) (by decide)
    obtain rfl := Except.ok.inj ((hread _ (by decide +kernel)).symm.trans hschema')
    rwa [Files.stem_join (by decide) (by decide)] at hstem
  · rw [hcopy copy names.reverse rfl names.reverse_perm rfl, hcatalog]
    rfl

end Catalog

end SchemaCheck
