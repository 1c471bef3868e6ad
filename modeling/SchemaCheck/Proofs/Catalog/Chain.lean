import Mathlib.Tactic.Common
import SchemaCheck.Proofs.Catalog.Reload
import SchemaCheck.Settings

/-!
# Chains of origins

Which catalog a chain of origins gives, in terms of what each origin gives alone.

* `Origin.Loads`: the origin can be loaded where it stands alone.  A directory loads as a whole or
  not at all (`Origin.loads_directory_iff`).
* `Catalog.loadFirst_eq_ok_iff`: a chain gives the catalog of its first origin that loads, as that
  origin gives it alone.  `Catalog.loadFirst_eq_error_iff`: otherwise there is nothing to be had.
* `Settings.catalog?_eq_none_iff` and `Settings.catalog?_eq_some_iff`: settings ask for a catalog
  where they name an origin, and then for that of the chain of all they name.
* `Catalog.loadFirst_of_chain`: all of it together.
-/

namespace SchemaCheck

/-- The origin can be loaded where it stands alone. -/
def Origin.Loads (files : Files) (origin : Origin) : Prop :=
  ∃ loaded, Catalog.load files origin = .ok loaded

/-! ### Single origins -/

namespace Origin

variable {files : Files} {origin : Origin} {path : String}

lemma not_loads_iff :
    ¬origin.Loads files ↔ (Catalog.load files origin).toOption = none := by
  rw [Option.eq_none_iff_forall_ne_some, Loads, not_exists]
  exact forall_congr' fun loaded => not_congr toOption_eq_some_iff.symm

/-- Whether an origin loads depends only on whether its schemas can be had. -/
lemma loads_iff :
    origin.Loads files ↔ (Catalog.loadSchemas files origin).toOption.isSome = true := by
  rw [Loads, Option.isSome_iff_exists]
  constructor
  · rintro ⟨loaded, h⟩
    obtain ⟨pairs, hpairs, -⟩ := Catalog.load_eq_ok_iff.1 h
    exact ⟨pairs, toOption_eq_some_iff.2 hpairs⟩
  · rintro ⟨pairs, hpairs⟩
    exact ⟨_, Catalog.load_eq_ok_iff.2 ⟨pairs, toOption_eq_some_iff.1 hpairs, rfl⟩⟩

/-- A file loads exactly if the one document in it does. -/
lemma loads_file_iff :
    (Origin.file path).Loads files ↔
      (Catalog.loadDocument files path).toOption.isSome = true := by
  rw [loads_iff, Catalog.loadSchemas]
  cases Catalog.loadDocument files path <;> rfl

/-- **A directory loads as a whole or not at all**: it has to be listed, and each document in it has
to load alone. -/
theorem loads_directory_iff :
    (Origin.directory path).Loads files ↔
      ∃ names, files.list path = .ok names ∧ ∀ name ∈ names, Catalog.isDocumentName name = true →
        (Origin.file (Files.join path name)).Loads files := by
  rw [loads_iff, Catalog.loadSchemas, Catalog.loadDirectory]
  cases files.list path with
  | error error => simp [Except.toOption]
  | ok names =>
      simp only [toOption_mapM, Json.isSome_mapM_iff, List.mem_filter, and_imp, ← loads_file_iff,
        Except.ok.injEq, exists_eq_left']

end Origin

/-! ### Chains -/

namespace Catalog

variable {files : Files} {origins : List Origin}

/-- **The first origin that loads gives the catalog.**  What is told of the others is only that
those before it do not load; the source is the whole chain. -/
theorem loadFirst_eq_ok_iff {catalog : Catalog} :
    loadFirst files origins = .ok catalog ↔
      ∃ before origin behind loaded, origins = before ++ origin :: behind ∧
        (∀ failing ∈ before, ¬failing.Loads files) ∧ load files origin = .ok loaded ∧
          catalog = ⟨loaded.schemas, .chain origins⟩ := by
  simp only [Origin.not_loads_iff, ← toOption_eq_some_iff]
  rw [loadFirst]
  constructor
  · intro h
    split at h
    · next loaded hfirst =>
        obtain ⟨before, origin, behind, hchain, hload, hbefore⟩ :=
          List.findSome?_eq_some_iff.1 hfirst
        exact ⟨before, origin, behind, loaded, hchain, hbefore, hload,
          (Option.some.inj h).symm⟩
    · cases h
  · rintro ⟨before, origin, behind, loaded, hchain, hbefore, hload, rfl⟩
    have hfirst := List.findSome?_eq_some_iff.2 ⟨before, origin, behind, hchain, hload, hbefore⟩
    rw [hfirst]
    rfl

/-- A chain fails in one way, which is that no origin of it loads. -/
theorem loadFirst_eq_error_iff {error : CatalogError} :
    loadFirst files origins = .error error ↔
      error = .noSources ∧ ∀ origin ∈ origins, ¬origin.Loads files := by
  simp only [Origin.not_loads_iff]
  rw [← List.findSome?_eq_none_iff, loadFirst]
  constructor
  · intro h
    split at h
    · cases h
    · next hnone => exact ⟨(Except.error.inj h).symm, hnone⟩
  · rintro ⟨rfl, hnone⟩
    rw [hnone]

/-- A chain gives a catalog exactly if one of its origins does. -/
theorem exists_loadFirst_iff :
    (∃ catalog, loadFirst files origins = .ok catalog) ↔
      ∃ origin ∈ origins, origin.Loads files := by
  constructor
  · rintro ⟨catalog, h⟩
    obtain ⟨before, origin, behind, loaded, rfl, -, hload, -⟩ := loadFirst_eq_ok_iff.1 h
    exact ⟨origin, List.mem_append_right _ List.mem_cons_self, loaded, hload⟩
  · rintro ⟨origin, hmem, hloads⟩
    cases hfirst : loadFirst files origins with
    | ok catalog => exact ⟨catalog, rfl⟩
    | error error => exact absurd hloads ((loadFirst_eq_error_iff.1 hfirst).2 origin hmem)

end Catalog

/-! ### Chains of settings -/

namespace Settings

variable {settings : Settings} {files : Files}

lemma origins_eq_nil_iff :
    settings.origins = [] ↔ settings.directories = [] ∧ settings.bundles = [] := by
  rw [origins, List.append_eq_nil_iff, List.map_eq_nil_iff, List.map_eq_nil_iff]

lemma catalog?_eq_none_iff :
    settings.catalog? files = none ↔ settings.directories = [] ∧ settings.bundles = [] := by
  rw [← origins_eq_nil_iff, catalog?, ite_eq_left_iff, List.isEmpty_iff]
  simp

/-- Settings with origins ask for the catalog of the chain, the directories first. -/
lemma catalog?_eq_some_iff {loaded : Except CatalogError Catalog} :
    settings.catalog? files = some loaded ↔
      ¬(settings.directories = [] ∧ settings.bundles = []) ∧
        loaded = Catalog.loadFirst files
          (settings.directories.map .directory ++ settings.bundles.map .bundle) := by
  rw [← origins_eq_nil_iff, catalog?, ← List.isEmpty_iff]
  split
  · next hempty => simp [hempty]
  · next hempty =>
      rw [Option.some.injEq, and_iff_right hempty, eq_comm]
      rfl

end Settings

/-- **The first of a chain.**  A chain of origins gives a catalog exactly if an origin of it loads
alone.  The catalog then has the schemas that the first such origin has alone, with nothing of the
ones that failed before it, and names the whole chain as its source; otherwise there are no sources.
Settings ask for the chain of their directories and then their bundles, unless they name neither. -/
theorem Catalog.loadFirst_of_chain (files : Files) :
    (∀ origins, (∃ catalog, loadFirst files origins = .ok catalog) ↔
      ∃ origin ∈ origins, origin.Loads files) ∧
    (∀ origins catalog, loadFirst files origins = .ok catalog ↔
      ∃ before origin behind loaded, origins = before ++ origin :: behind ∧
        (∀ failing ∈ before, ¬failing.Loads files) ∧ load files origin = .ok loaded ∧
          catalog = ⟨loaded.schemas, .chain origins⟩) ∧
    (∀ origins error, loadFirst files origins = .error error ↔
      error = .noSources ∧ ∀ origin ∈ origins, ¬origin.Loads files) ∧
    ∀ settings : Settings,
      (settings.catalog? files = none ↔ settings.directories = [] ∧ settings.bundles = []) ∧
      ∀ loaded, settings.catalog? files = some loaded ↔
        ¬(settings.directories = [] ∧ settings.bundles = []) ∧
          loaded = loadFirst files
            (settings.directories.map .directory ++ settings.bundles.map .bundle) :=
  ⟨fun _ => exists_loadFirst_iff, fun _ _ => loadFirst_eq_ok_iff,
    fun _ _ => loadFirst_eq_error_iff,
    fun _ => ⟨Settings.catalog?_eq_none_iff, fun _ => Settings.catalog?_eq_some_iff⟩⟩

end SchemaCheck
