import Mathlib.Data.List.Nodup
import Mathlib.Tactic.Common
import SchemaCheck.Json.Reader
import SchemaCheck.Proofs.Json.Values

/-!
# Keys that differ

No object that is read has a key twice.

* `Json.KeysApart`: the keys of every object in a value differ from each other.
* `nodup_keys_ofPairs`: of a repeated key only the last value is kept.
* `Gives`: a reader finds nothing but values with a property.  The readers of arrays and objects
  pass such a property on from their elements (`Gives.items`, `Gives.members`).
* `keysApart_of_readText`: so the value that a text spells has its keys apart, by induction on the
  number of arrays and objects that may be nested.
-/

namespace SchemaCheck.Json

/-- The keys of an object differ from each other. -/
def OwnKeysApart : Json → Prop
  | .object members => (members.map Prod.fst).Nodup
  | _ => True

/-- **Keys apart**: no object in the value has a key twice. -/
def KeysApart (value : Json) : Prop := value.Everywhere OwnKeysApart

lemma keysApart_array {items : List Json} :
    (Json.array items).KeysApart ↔ ∀ item ∈ items, item.KeysApart := by
  rw [KeysApart, everywhere_array]
  exact and_iff_right trivial

lemma keysApart_object {members : List (String × Json)} :
    (Json.object members).KeysApart ↔
      (members.map Prod.fst).Nodup ∧ ∀ member ∈ members, member.2.KeysApart := by
  rw [KeysApart, everywhere_object, OwnKeysApart]
  rfl

/-! ### Members of an object that is read -/

section

variable {α : Type} {members pairs : List (String × α)} {key : String} {value : α}

/-- A member of an object is the one that was put in, or was there before. -/
lemma mem_of_mem_putMember {member : String × α} (h : member ∈ putMember members key value) :
    member = (key, value) ∨ member ∈ members := by
  induction members with
  | nil => exact .inl (List.mem_singleton.1 h)
  | cons first members ih =>
      rw [putMember] at h
      split at h
      · exact (List.mem_cons.1 h).imp_right (List.mem_cons_of_mem _)
      · rcases List.mem_cons.1 h with rfl | hrest
        · exact .inr List.mem_cons_self
        · exact (ih hrest).imp_right (List.mem_cons_of_mem _)

/-- Putting a member in keeps keys different. -/
lemma nodup_keys_putMember (h : (members.map Prod.fst).Nodup) :
    ((putMember members key value).map Prod.fst).Nodup := by
  induction members with
  | nil => exact List.nodup_singleton key
  | cons first members ih =>
      obtain ⟨k, x⟩ := first
      obtain ⟨hnew, hrest⟩ := List.nodup_cons.1 h
      rw [putMember]
      split
      · next heq => exact List.nodup_cons.2 ⟨heq ▸ hnew, hrest⟩
      · next hne =>
          refine List.nodup_cons.2 ⟨fun hmem => ?_, ih hrest⟩
          obtain ⟨member, hmember, hk⟩ := List.mem_map.1 hmem
          rcases mem_of_mem_putMember hmember with rfl | hold
          · exact hne hk.symm
          · exact hnew (List.mem_map.2 ⟨member, hold, hk⟩)

/-- Pairs that are put into an object one by one keep what each of them keeps. -/
lemma ofPairs_ind {P : List (String × α) → Prop} (nil : P [])
    (put : ∀ members, ∀ pair ∈ pairs, P members → P (putMember members pair.1 pair.2)) :
    P (ofPairs pairs) :=
  List.foldlRecOn pairs _ nil fun members h pair hpair => put members pair hpair h

lemma nodup_keys_ofPairs (pairs : List (String × α)) : ((ofPairs pairs).map Prod.fst).Nodup :=
  ofPairs_ind (P := fun members => (members.map Prod.fst).Nodup) List.nodup_nil
    fun _ _ _ => nodup_keys_putMember

lemma mem_of_mem_ofPairs {member : String × α} : member ∈ ofPairs pairs → member ∈ pairs :=
  ofPairs_ind (P := fun members => member ∈ members → member ∈ pairs)
    (fun h => absurd h List.not_mem_nil)
    fun _ _ hpair ih h => (mem_of_mem_putMember h).elim (fun heq => heq ▸ hpair) ih

end

/-! ### Readers -/

/-- The reader finds nothing but values with the property `P`. -/
def Gives {α : Type} (P : α → Prop) (reader : Reader α) : Prop :=
  ∀ text taken, reader text = .ok taken → P taken.value

namespace Gives

variable {α : Type} {P : α → Prop} {reader : Reader α}

/-- Items that are read are such as the reader of one gives. -/
lemma items (h : Gives P reader) : Gives (fun values => ∀ x ∈ values, P x) (readItems reader) := by
  intro text
  fun_induction readItems reader text with
  | case3 text value rest hr hread behind hb hnext =>
      intro taken htaken
      obtain rfl := Except.ok.inj htaken
      exact List.forall_mem_singleton.2 (h _ _ hread)
  | case5 text value rest hr hread next hn hnext values last hl hrest ih =>
      intro taken htaken
      obtain rfl := Except.ok.inj htaken
      exact List.forall_mem_cons.2 ⟨h _ _ hread, ih _ hrest⟩
  | _ =>
      -- A fault comes first.
      intro taken htaken
      cases htaken

lemma members (h : Gives P reader) :
    Gives (fun members => ∀ member ∈ members, P member.2) (readMembers reader) := by
  intro text
  fun_induction readMembers reader text with
  | case5 text key afterKey hk hkey afterColon hc hcolon value rest hr hread behind hb hnext =>
      intro taken htaken
      obtain rfl := Except.ok.inj htaken
      exact List.forall_mem_singleton.2 (h _ _ hread)
  | case7 text key afterKey hk hkey afterColon hc hcolon value rest hr hread next hn hnext members
      last hl hrest ih =>
      intro taken htaken
      obtain rfl := Except.ok.inj htaken
      exact List.forall_mem_cons.2 ⟨h _ _ hread, ih _ hrest⟩
  | _ =>
      intro taken htaken
      cases htaken

/-- The items of an array that is read are such as its reader gives. -/
lemma array (h : Gives P reader) : Gives (fun values => ∀ x ∈ values, P x) (readArray reader) := by
  intro text taken htaken
  unfold readArray at htaken
  split at htaken
  · cases htaken
  · split at htaken
    · obtain rfl := Except.ok.inj htaken
      exact fun _ hx => absurd hx List.not_mem_nil
    · split at htaken
      · next hitems =>
          obtain rfl := Except.ok.inj htaken
          have hvalues := h.items _ _ hitems
          exact hvalues
      · cases htaken

/-- The members of an object that is read have values such as the reader gives. -/
lemma object (h : Gives P reader) :
    Gives (fun members => ∀ member ∈ members, P member.2) (readObject reader) := by
  intro text taken htaken
  unfold readObject at htaken
  split at htaken
  · cases htaken
  · split at htaken
    · obtain rfl := Except.ok.inj htaken
      exact fun _ hx => absurd hx List.not_mem_nil
    · split at htaken
      · next hmembers =>
          obtain rfl := Except.ok.inj htaken
          have hvalues := h.members _ _ hmembers
          exact hvalues
      · cases htaken

end Gives

/-- A scalar has no keys. -/
lemma keysApart_of_readScalar? {first : UInt8} {text : Bytes} {value : Json}
    {rest : { rest : Bytes // rest.length ≤ text.length }}
    (h : readScalar? first text = some (.ok (value, rest))) : value.KeysApart := by
  have hmap {α : Type} {f : α → Json × { rest : Bytes // rest.length ≤ text.length }}
      {taken : Except Fault α} (h : some (taken.map f) = some (.ok (value, rest))) :
      ∃ a, f a = (value, rest) := by
    cases taken with
    | error fault => cases h
    | ok a => exact ⟨a, Except.ok.inj (Option.some.inj h)⟩
  unfold readScalar? readWord at h
  split_ifs at h <;> obtain ⟨a, ha⟩ := hmap h <;> cases ha <;> trivial

/-- **One level of reading**: keys are apart in a value if they are in the values one level deeper.
-/
lemma gives_readValue_of {depth : Nat}
    (h : ∀ lower, depth = lower + 1 → Gives KeysApart (readValue lower)) :
    Gives KeysApart (readValue depth) := by
  intro text taken htaken
  unfold readValue at htaken
  split at htaken
  · cases htaken
  · split at htaken
    · next hscalar =>
        obtain rfl := Except.ok.inj htaken
        exact keysApart_of_readScalar? hscalar
    · cases htaken
    · split_ifs at htaken
      · split at htaken
        · cases htaken
        · next lower =>
            split at htaken
            · next items hitems =>
                obtain rfl := Except.ok.inj htaken
                exact keysApart_array.2 ((h lower rfl).array _ _ hitems)
            · cases htaken
      · split at htaken
        · cases htaken
        · next lower =>
            split at htaken
            · next members hmembers =>
                obtain rfl := Except.ok.inj htaken
                refine keysApart_object.2 ⟨nodup_keys_ofPairs _, fun member hmember => ?_⟩
                exact (h lower rfl).object _ _ hmembers member (mem_of_mem_ofPairs hmember)
            · cases htaken

/-- **A value that is read has its keys apart**, however deep it may be. -/
theorem gives_readValue (depth : Nat) : Gives KeysApart (readValue depth) := by
  induction depth with
  | zero => exact gives_readValue_of fun _ h => absurd h (Nat.succ_ne_zero _).symm
  | succ depth ih => exact gives_readValue_of fun _ h => Nat.succ.inj h ▸ ih

/-- **Whatever is read has its keys apart**, in every object of it. -/
theorem keysApart_of_readText {text : String} {value : Json} (h : readText text = .ok value) :
    value.KeysApart := by
  cases hread : read (bytesOf text) with
  | error fault =>
      rw [readText, hread] at h
      cases h
  | ok found =>
      rw [readText, hread] at h
      obtain rfl := Except.ok.inj h
      unfold read readAll at hread
      split at hread
      · cases hread
      · next taken htaken =>
          split at hread
          · cases hread
          · obtain rfl := Except.ok.inj hread
            exact gives_readValue depthLimit _ _ htaken

end SchemaCheck.Json
