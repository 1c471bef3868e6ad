import Mathlib.Data.List.Forall2
import Mathlib.Tactic.Common
import SchemaCheck.Proofs.Json.Reordered
import SchemaCheck.Proofs.Spec.Alike

/-!
# What is not read in schema documents

Neither the order of members in a schema document matters, nor what is under keys that are not read.

* `Json.asRead`: a schema document, or a part of one, with the keys alone that are read.
* `Json.ReadAlike`: values that differ in nothing else than the order of members, the writing of
  numbers and what is not read.
* `Json.ReadAlike.simulation`: these values simulate each other, whatever they are read as.
* `Schema.related_ofSpec_of_asRead`: so they give equal schemas, or have the same defects.
-/

namespace SchemaCheck

open Checked (Related)

/-! ### The keys that are read -/

mutual

/-- **What is read of a value**: the objects in it have those members alone whose keys are read. -/
def Json.asRead : Role → Json → Json
  | role, .array items =>
    match role.item? with
    | some item => .array (asReadItems item items)
    | none => .array items
  | role, .object members =>
    match role.keys? members with
    | some keys => .object (asReadMembers keys members)
    | none => .object members
  | _, value => value
termination_by structural _ value => value

/-- What is read of the items of a list. -/
def asReadItems : Role → List Json → List Json
  | _, [] => []
  | role, item :: items => item.asRead role :: asReadItems role items
termination_by structural _ items => items

/-- The members under the keys, with what is read of their values. -/
def asReadMembers : List (String × Role) → Members → Members
  | _, [] => []
  | keys, (key, value) :: members =>
    match keys.lookup key with
    | some role => (key, value.asRead role) :: asReadMembers keys members
    | none => asReadMembers keys members
termination_by structural _ members => members

end

lemma asReadItems_eq_map (role : Role) (items : List Json) :
    asReadItems role items = items.map (Json.asRead role) := by
  induction items with
  | nil => rfl
  | cons item items ih => rw [asReadItems, ih, List.map_cons]

/-- Under a key that is read is what is read of the value. -/
lemma lookup_asReadMembers {keys : List (String × Role)} {key : String} {role : Role}
    (h : keys.lookup key = some role) (members : Members) :
    (asReadMembers keys members).lookup key = (members.lookup key).map (Json.asRead role) := by
  induction members with
  | nil => rfl
  | cons member members ih =>
      obtain ⟨k, value⟩ := member
      rw [asReadMembers]
      by_cases hkey : key = k
      · subst hkey
        rw [h, List.lookup_cons_self, List.lookup_cons_self, Option.map_some]
      · have hne : (key == k) = false := beq_false_of_ne hkey
        rw [List.lookup_cons, hne]
        cases keys.lookup k with
        | none => exact ih
        | some role' =>
            rw [List.lookup_cons, hne]
            exact ih

/-- No key is read as two things. -/
lemma Role.lookup_of_mem_keys? {role : Role} {members : Members} {keys : List (String × Role)}
    (h : role.keys? members = some keys) {pair : String × Role} (hpair : pair ∈ keys) :
    keys.lookup pair.1 = some pair.2 := by
  revert pair
  cases role with
  | spec =>
      obtain rfl := Option.some.inj h
      generalize members.kind? = kind
      rcases kind with _ | (_ | _ | _ | _ | _ | _ | _) <;> decide
  | document =>
      obtain rfl := Option.some.inj h
      decide
  | range =>
      obtain rfl := Option.some.inj h
      decide
  | _ => cases h

namespace Json

lemma kind_asRead (role : Role) (value : Json) : (value.asRead role).kind = value.kind := by
  cases value with
  | array items =>
      rw [asRead]
      cases role.item? <;> rfl
  | object members =>
      rw [asRead]
      cases role.keys? members <;> rfl
  | _ => rfl

lemma asRead_scalar (value : Json) : value.asRead .scalar = value := by
  cases value <;> rfl

/-- Items are read in the role that their list has for them. -/
lemma items?_asRead {role item : Role} (h : role.item? = some item) (value : Json) :
    (value.asRead role).items? = value.items?.map (List.map (asRead item)) := by
  cases value with
  | array items =>
      rw [asRead, h]
      exact congrArg some (asReadItems_eq_map item items)
  | object members =>
      rw [asRead]
      cases role.keys? members <;> rfl
  | _ => rfl

end Json

/-! ### Related parts -/

/-- Optional values that are related to a third are related through it. -/
lemma rel_comp {α β γ : Type} {R : α → β → Prop} {S : β → γ → Prop} {x : Option α} {y : Option β}
    {z : Option γ} (h : Option.Rel R x y) (h' : Option.Rel S y z) :
    Option.Rel (fun a c => ∃ b, R a b ∧ S b c) x z := by
  cases h with
  | none =>
      cases h'
      exact .none
  | some hab =>
      cases h' with
      | some hbc => exact .some ⟨_, hab, hbc⟩

lemma forall₂_comp {α β γ : Type} {R : α → β → Prop} {S : β → γ → Prop} {xs : List α}
    {ys : List β} {zs : List γ} (h : List.Forall₂ R xs ys) (h' : List.Forall₂ S ys zs) :
    List.Forall₂ (fun a c => ∃ b, R a b ∧ S b c) xs zs := by
  induction h generalizing zs with
  | nil =>
      cases h'
      exact .nil
  | cons hab _ ih =>
      cases h' with
      | cons hbc hrest => exact .cons ⟨_, hab, hbc⟩ (ih hrest)

lemma rel_of_rel_map {α β α' β' : Type} {R : α' → β' → Prop} {f : α → α'} {g : β → β'}
    {x : Option α} {y : Option β} (h : Option.Rel R (x.map f) (y.map g)) :
    Option.Rel (fun a b => R (f a) (g b)) x y := by
  cases x <;> cases y <;> cases h
  · exact .none
  · next h => exact .some h

/-! ### Values that are read alike -/

namespace Json

/-- **Values that are read alike**: what is read of them differs in nothing else than the order of
members and the writing of numbers. -/
def ReadAlike (role : Role) (value value' : Json) : Prop :=
  ∃ moved, (value.asRead role).Reordered moved ∧ moved.Alike (value'.asRead role)

namespace ReadAlike

variable {value value' : Json}

lemma kind_eq {role : Role} (h : ReadAlike role value value') : value.kind = value'.kind := by
  obtain ⟨moved, hmoved, halike⟩ := h
  rw [← kind_asRead role value, hmoved.kind_eq, halike.kind_eq, kind_asRead]

/-- Values that are read alike as scalars are the same scalars. -/
lemma sameScalar (h : ReadAlike .scalar value value') : value.SameScalar value' := by
  obtain ⟨moved, hmoved, halike⟩ := h
  rw [asRead_scalar] at hmoved halike
  cases hmoved with
  | same =>
      exact ⟨halike.bool?_eq, halike.string?_eq, halike.int64_eq, Limit.exact_binary64 _ _ halike⟩
  | array =>
      cases halike
      exact ⟨rfl, rfl, rfl, .none⟩
  | object =>
      cases halike
      exact ⟨rfl, rfl, rfl, .none⟩

/-- Values that are read alike have items that are read alike. -/
lemma rel_items? {role item : Role} (h : ReadAlike role value value')
    (hitem : role.item? = some item) :
    Option.Rel (List.Forall₂ (ReadAlike item)) value.items? value'.items? := by
  obtain ⟨moved, hmoved, halike⟩ := h
  have hitems := rel_comp hmoved.rel_items? halike.rel_items?
  rw [items?_asRead hitem, items?_asRead hitem] at hitems
  rcases rel_cases (rel_of_rel_map hitems) with ⟨hx, hy⟩ | ⟨items, items', hx, hy, hboth⟩
  · rw [hx, hy]
    exact .none
  · obtain ⟨between, hfirst, hsecond⟩ := hboth
    have hrel := forall₂_comp hfirst hsecond
    rw [List.forall₂_map_left_iff, List.forall₂_map_right_iff] at hrel
    rw [hx, hy]
    exact .some hrel

/-- The values under a key that is read in both objects. -/
lemma rel_lookup {members members' : Members} {keys keys' : List (String × Role)} {moved : Json}
    (hmoved : (Json.object (asReadMembers keys members)).Reordered moved)
    (halike : moved.Alike (.object (asReadMembers keys' members'))) {key : String} {role : Role}
    (hkey : keys.lookup key = some role) (hkey' : keys'.lookup key = some role) :
    Option.Rel (ReadAlike role) (members.lookup key) (members'.lookup key) := by
  have hvalues := rel_comp (hmoved.rel_member? key) (halike.rel_member? key)
  rw [member?, member?, lookup_asReadMembers hkey, lookup_asReadMembers hkey'] at hvalues
  have hrel := rel_of_rel_map hvalues
  exact hrel

/-- Specs that are read alike name the same kind. -/
lemma kind?_eq {members members' : Members}
    (h : ReadAlike .spec (.object members) (.object members')) :
    members.kind? = members'.kind? := by
  have hkind (members : Members) :
      members.kind? = ((members.lookup "type").bind string?).bind Kind.ofName? := by
    rw [Members.kind?]
    rcases members.lookup "type" with _ | (_ | _ | _ | _ | _ | _) <;> rfl
  obtain ⟨moved, hmoved, halike⟩ := h
  have htype : Option.Rel (ReadAlike .scalar) (members.lookup "type") (members'.lookup "type") :=
    rel_lookup hmoved halike rfl rfl
  rw [hkind, hkind]
  rcases rel_cases htype with ⟨hx, hy⟩ | ⟨value, value', hx, hy, hvalue⟩
  · rw [hx, hy]
  · rw [hx, hy, Option.bind_some, Option.bind_some, hvalue.sameScalar.string]

/-- The same keys are read in both objects. -/
lemma keys?_eq {role : Role} {members members' : Members}
    (h : ReadAlike role (.object members) (.object members')) :
    role.keys? members = role.keys? members' := by
  cases role with
  | spec => rw [Role.keys?, Role.keys?, kind?_eq h]
  | _ => rfl

/-- **Values that are read alike simulate each other.** -/
theorem simulation : Json.Simulation ReadAlike where
  kind_eq h := h.kind_eq
  scalar h := h.sameScalar
  items h hitem := h.rel_items? hitem
  members {role members members' keys} h hkeys pair hpair := by
    -- The keys depend on the kind of a spec, which both objects share.
    have hkeys' : role.keys? members' = some keys := h.keys?_eq ▸ hkeys
    have hkey := Role.lookup_of_mem_keys? hkeys hpair
    obtain ⟨moved, hmoved, halike⟩ := h
    rw [asRead, hkeys] at hmoved
    rw [asRead, hkeys'] at halike
    exact rel_lookup hmoved halike hkey hkey

end ReadAlike

end Json

/-- **Only what is read matters.**  Two documents in which, apart from the order of members and the
writing of numbers, the same is read, give equal schemas or have the same defects in the same
order. -/
theorem Schema.related_ofSpec_of_readAlike {document document' : Json}
    (h : Json.ReadAlike .document document document') :
    Related (fun schema schema' => schema.same schema' = true) (Schema.ofSpec document)
      (Schema.ofSpec document') :=
  (Json.ReadAlike.simulation.related_ofSpec document).2 document' h

/-- Moved and stray keys in a range, in a spec and in a document, with stray keys alone in a spec
that has no type. -/
theorem Schema.related_ofSpec_of_readAlike_levels :
    let name : String × Json := ("name", .string "n")
    let type : String × Json := ("type", .string "integer")
    let start : String × Json := ("start", .number (.whole 0))
    let stop : String × Json := ("end", .number (.whole 9))
    let spec : Json := .object
      [type, ("format", .null), name, ("ranges", .array [.object [("step", .null), stop, start]])]
    let spec' : Json := .object [name, type, ("ranges", .array [.object [start, stop]])]
    let document : Json :=
      .object [("note", .null), ("fields", .array [spec, .object [("min", .bool true)]])]
    let document' : Json := .object [("fields", .array [spec', .object [("items", .null)]])]
    Json.ReadAlike .document document document' ∧
      Related (fun schema schema' => schema.same schema' = true) (Schema.ofSpec document)
        (Schema.ofSpec document') := by
  intro name type start stop spec spec' document document'
  have hranges : (Json.array [.object [stop, start]]).Reordered
      (.array [.object [start, stop]]) := by
    refine .array rfl ?_
    rintro (_ | i) x y hx hy
    · cases hx
      cases hy
      refine .object (by decide) (.swap _ _ _) rfl ?_
      rintro i key x y hx hy
      obtain rfl : x = y := congrArg Prod.snd (Option.some.inj (hx.symm.trans hy))
      exact .same x
    · cases hx
  have hspec : (spec.asRead .spec).Reordered (spec'.asRead .spec) := by
    refine .object (by decide) (.swap name type _) rfl ?_
    rintro (_ | _ | _ | i) key x y hx hy
    · obtain rfl : x = y := congrArg Prod.snd (Option.some.inj (hx.symm.trans hy))
      exact .same x
    · obtain rfl : x = y := congrArg Prod.snd (Option.some.inj (hx.symm.trans hy))
      exact .same x
    · cases hx
      cases hy
      exact hranges
    · cases hx
  have hspecs : (Json.array [spec.asRead .spec, .object []]).Reordered
      (.array [spec'.asRead .spec, .object []]) := by
    refine .array rfl ?_
    rintro (_ | _ | i) x y hx hy <;> cases hx <;> cases hy
    · exact hspec
    · exact .same (.object [])
  have hdocument : (document.asRead .document).Reordered (document'.asRead .document) := by
    refine .object (by decide) (.refl _) rfl ?_
    rintro (_ | i) key x y hx hy
    · cases hx
      cases hy
      exact hspecs
    · cases hx
  have hread : Json.ReadAlike .document document document' := ⟨_, hdocument, .refl _⟩
  exact ⟨hread, related_ofSpec_of_readAlike hread⟩

end SchemaCheck
