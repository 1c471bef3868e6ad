/-!
# Values by name

A `NameMap` keeps its entries in the order of their names, each name once.  Two maps that give the
same values therefore hold the same entries (`NameMap.ext_get?`), and whatever is written entry by
entry depends on the values alone.
-/

namespace SchemaCheck

/-- Values under distinct names, in the order of the names. -/
structure NameMap (α : Type) where
  entries : List (String × α)
  sorted : entries.Pairwise (·.1 < ·.1)

namespace NameMap

variable {α : Type}

def empty : NameMap α := ⟨[], .nil⟩

def get? (map : NameMap α) (name : String) : Option α := map.entries.lookup name

def names (map : NameMap α) : List String := map.entries.map (·.1)

/-- Entries with one more, at its place; a value under the same name gives way. -/
def place (name : String) (value : α) : List (String × α) → List (String × α)
  | [] => [(name, value)]
  | entry :: entries =>
    if name < entry.1 then (name, value) :: entry :: entries
    else if name = entry.1 then (name, value) :: entries
    else entry :: place name value entries

theorem mem_place {name : String} {value : α} {entries : List (String × α)} {entry : String × α}
    (h : entry ∈ place name value entries) : entry = (name, value) ∨ entry ∈ entries := by
  induction entries with
  | nil => simpa [place] using h
  | cons first entries ih =>
    simp only [place] at h
    split at h
    · simpa using h
    · split at h <;> simp only [List.mem_cons] at h ⊢ <;> grind

theorem sorted_place (name : String) (value : α) {entries : List (String × α)}
    (sorted : entries.Pairwise (·.1 < ·.1)) :
    (place name value entries).Pairwise (·.1 < ·.1) := by
  induction entries with
  | nil => simp [place]
  | cons first entries ih =>
    obtain ⟨below, sorted⟩ := List.pairwise_cons.1 sorted
    simp only [place]
    split
    · rename_i before
      refine List.pairwise_cons.2 ⟨fun entry h => ?_, List.pairwise_cons.2 ⟨below, sorted⟩⟩
      rcases List.mem_cons.1 h with rfl | h
      · exact before
      · exact String.lt_trans before (below entry h)
    · split
      · rename_i same
        exact List.pairwise_cons.2 ⟨fun entry h => same ▸ below entry h, sorted⟩
      · rename_i notBefore notSame
        refine List.pairwise_cons.2 ⟨fun entry h => ?_, ih sorted⟩
        rcases mem_place h with rfl | h
        · grind
        · exact below entry h

def insert (map : NameMap α) (name : String) (value : α) : NameMap α :=
  ⟨place name value map.entries, sorted_place name value map.sorted⟩

def map {β : Type} (f : α → β) (map : NameMap α) : NameMap β :=
  ⟨map.entries.map fun entry => (entry.1, f entry.2), List.pairwise_map.2 map.sorted⟩

/-- The values of a list of pairs; under a repeated name the last one counts. -/
def ofList (pairs : List (String × α)) : NameMap α :=
  pairs.foldl (fun map pair => map.insert pair.1 pair.2) empty

theorem get?_insert (map : NameMap α) (name : String) (value : α) (other : String) :
    (map.insert name value).get? other = if other = name then some value else map.get? other := by
  obtain ⟨entries, sorted⟩ := map
  simp only [insert, get?]
  induction entries with
  | nil => grind [place]
  | cons first entries ih =>
    have ih := ih (List.pairwise_cons.1 sorted).2
    grind [place]

theorem mem_entries_iff {map : NameMap α} {name : String} {value : α} :
    (name, value) ∈ map.entries ↔ map.get? name = some value := by
  obtain ⟨entries, sorted⟩ := map
  simp only [get?]
  induction entries with
  | nil => simp
  | cons first entries ih =>
    obtain ⟨below, sorted⟩ := List.pairwise_cons.1 sorted
    have ih := ih sorted
    have absent : (first.1, value) ∉ entries := fun mem =>
      String.lt_irrefl first.1 (below (first.1, value) mem)
    by_cases h : name = first.1 <;> grind

/-- A map is given by its values. -/
theorem ext_get? {map other : NameMap α} (h : ∀ name, map.get? name = other.get? name) :
    map = other := by
  have mem : ∀ entry, entry ∈ map.entries ↔ entry ∈ other.entries := fun entry => by
    rw [← Prod.eta entry, mem_entries_iff, mem_entries_iff, h]
  obtain ⟨entries, sorted⟩ := map
  obtain ⟨others, sorted'⟩ := other
  simp only [mk.injEq]
  clear h
  induction entries generalizing others with
  | nil =>
    cases others with
    | nil => rfl
    | cons first others => exact absurd ((mem first).2 List.mem_cons_self) (by simp)
  | cons first entries ih =>
    cases others with
    | nil => exact absurd ((mem first).1 List.mem_cons_self) (by simp)
    | cons first' others =>
      obtain ⟨below, rest⟩ := List.pairwise_cons.1 sorted
      obtain ⟨below', rest'⟩ := List.pairwise_cons.1 sorted'
      have same : first = first' := by
        rcases List.mem_cons.1 ((mem first).1 List.mem_cons_self) with h | h
        · exact h
        rcases List.mem_cons.1 ((mem first').2 List.mem_cons_self) with h' | h'
        · exact h'.symm
        · exact absurd (below' _ h) (String.lt_asymm (below _ h'))
      subst same
      congr 1
      refine ih rest others rest' fun entry => ?_
      have := mem entry
      have := String.lt_irrefl first.1
      grind

end NameMap

end SchemaCheck
