import Mathlib
import SchemaCheck.Proofs.Catalog.Reload
import SchemaCheck.Proofs.Json.Grammar
import SchemaCheck.Proofs.Json.RepeatedKeys

/-!
# Texts of bundles

Which texts are bundles, and what is loaded of them, whoever wrote them.

* `Bundle.BundleText`: the text of a bundle.  An object has its documents under one key, which is
  given once; what stands under another key has to be JSON, but is not read.  An array has them as
  its one item.
* `Bundle.read_eq_ok_iff`: the reader of bundles reads the documents of such a text, with blanks
  around it (`Bundle.Holds`), and nothing else.  `Bundle.outcome_readMembers_iff`, by induction on
  the members in both directions, is the step for objects.
* `Catalog.load_bundle_holds`: the catalog of a bundle, and the failure where there is none.
-/

namespace SchemaCheck

namespace Bundle

open Json

variable {text rest : Bytes} {documents : List (String × Json)}

/-! ### The members of a bundle -/

/-- The text of a member's value: the documents, which nest at most 125 arrays and objects, or
whatever stands under another key. -/
def EntryText (name : String) (bytes : Bytes) : Option (List (String × Json)) → Prop
  | some documents => name = key ∧ MapText 125 bytes documents
  | none => name ≠ key ∧ IsJson bytes

/-- The value of a member is read as documents or skipped, as its key says. -/
lemma outcome_readMember (name : String) (text : Bytes) :
    outcome (readMember name) text =
      if name = key then (outcome readDocuments text).map (Prod.map some id)
      else (outcome skipValue text).map (Prod.map (fun _ => none) id) := by
  unfold outcome readMember
  split
  · cases readDocuments text <;> rfl
  · cases skipValue text <;> rfl

lemma recognizes_readDocuments : Recognizes (outcome readDocuments) (MapText 125) :=
  recognizes_readMap 125

/-- **The value of a member is read by its key.** -/
lemma recognizes_readMember (name : String) :
    Recognizes (outcome (readMember name)) (EntryText name) := by
  simp only [funext (outcome_readMember name)]
  by_cases hname : name = key
  · simp only [if_pos hname]
    refine recognizes_readDocuments.map some fun {bytes entry} => ?_
    cases entry <;> simp [EntryText, hname]
  · simp only [if_neg hname]
    refine recognizes_skipValue.map (fun _ => none) fun {bytes entry} => ?_
    cases entry <;> simp [EntryText, hname]

/-- How the members of a bundle are read. -/
def readsMember : Bytes → Option ((String × Option (List (String × Json))) × Bytes) :=
  member (outcome readKey) fun name => outcome (readMember name)

lemma recognizes_readsMember : Recognizes readsMember (MemberText KeyText EntryText) :=
  recognizes_member recognizesKey_readKey recognizes_readMember

variable {found : Option (List (String × Json))}
  {members : List (String × Option (List (String × Json)))}

/-- The documents that have been found, and those of the members. -/
def foundAmong (found : Option (List (String × Json)))
    (members : List (String × Option (List (String × Json)))) : List (List (String × Json)) :=
  found.toList ++ members.filterMap Prod.snd

/-- A member adds the documents that it has, if there are none yet. -/
lemma foundAmong_cons {entry : Option (List (String × Json))} {name : String}
    (h : entry.isSome → found = none) :
    foundAmong found ((name, entry) :: members) = foundAmong (entry.or found) members := by
  cases entry with
  | none => rfl
  | some documents =>
      rw [h rfl]
      rfl

/-- Where one list of documents is found, none of them is a second one. -/
lemma eq_none_of_foundAmong {entry : Option (List (String × Json))} {name : String}
    (h : foundAmong found ((name, entry) :: members) = [documents]) (hentry : entry.isSome) :
    found = none := by
  obtain ⟨documents', rfl⟩ := Option.isSome_iff_exists.1 hentry
  cases found with
  | none => rfl
  | some documents'' => cases h

lemma isSome_iff_of_readMember {name : String} {entry : Option (List (String × Json))}
    (h : outcome (readMember name) text = some (entry, rest)) : entry.isSome ↔ name = key := by
  obtain ⟨bytes, -, hentry⟩ := (recognizes_readMember name).sound h
  cases entry with
  | none => simpa using hentry.1
  | some documents => simpa using hentry.1

/-- **What is read are members**, of which exactly one has documents. -/
lemma lists_of_readMembers :
    ∀ taken, readMembers found text = .ok taken →
      ∃ members, Lists readsMember '\x7d'.toUInt8 text members taken.rest ∧
        foundAmong found members = [taken.value] := by
  -- Once the key has been seen, it must not come again.
  have honce : ∀ {found : Option (List (String × Json))} {name entry afterColon rest hv},
      ¬(name = key ∧ found.isSome = true) →
        readMember name afterColon = .ok ⟨entry, rest, hv⟩ → entry.isSome → found = none := by
    intro found name entry afterColon rest hv hnot hread hentry
    have hname := (isSome_iff_of_readMember (outcome_of_ok hread)).1 hentry
    exact Option.not_isSome_iff_eq_none.1 fun hfound => hnot ⟨hname, hfound⟩
  fun_induction readMembers found text with
  | case6 found text name afterKey hk hkey hnot afterColon hc hcolon entry rest hv hread behind hb
      documents hdocuments hnext =>
      intro taken htaken
      obtain rfl := Except.ok.inj htaken
      refine ⟨[(name, entry)], .last (member_of_ok readMember hkey hcolon hread)
        (skipBlanks_of_done hnext), ?_⟩
      rw [foundAmong_cons (honce hnot hread), hdocuments]
      rfl
  | case9 found text name afterKey hk hkey hnot afterColon hc hcolon entry rest hv hread next hn
      hnext taken' htaken' ih =>
      intro taken htaken
      obtain rfl := Except.ok.inj htaken
      obtain ⟨behind, hcomma, rfl⟩ := skipBlanks_of_more hnext
      obtain ⟨members, hmembers, hfound⟩ := ih _ htaken'
      refine ⟨(name, entry) :: members, .more (member_of_ok readMember hkey hcolon hread) hcomma
        (hmembers.congr (blind_member _ _ behind).symm), ?_⟩
      rw [foundAmong_cons (honce hnot hread)]
      exact hfound
  | _ =>
      intro taken htaken
      cases htaken

/-- **Members with documents once are read**, up to the brace behind them. -/
lemma outcome_readMembers_of_lists (h : Lists readsMember '\x7d'.toUInt8 text members rest)
    (hfound : foundAmong found members = [documents]) :
    outcome (readMembers found) (skipBlanks text) = some (documents, rest) := by
  have honce : ∀ {found : Option (List (String × Json))} {name entry afterColon rest members},
      foundAmong found ((name, entry) :: members) = [documents] →
        Yields (readMember name) afterColon entry rest → ¬(name = key ∧ found.isSome = true) := by
    rintro found name entry afterColon rest members hfound hread ⟨hname, hsome⟩
    have hentry := (isSome_iff_of_readMember (outcome_eq_some_iff.2 hread)).2 hname
    rw [eq_none_of_foundAmong hfound hentry] at hsome
    cases hsome
  induction h generalizing found with
  | @last text behind rest x read close =>
      obtain ⟨name, entry⟩ := x
      obtain ⟨afterKey, afterColon, ⟨hk, hkey⟩, ⟨hc, hcolon⟩, hv, hvalue⟩ :=
        member_outcome_iff.1 read
      obtain ⟨hdone, hclose⟩ := expectNext_done close .endInObject .expectedCommaOrBrace
      have hnot := honce hfound ⟨hv, hvalue⟩
      rw [foundAmong_cons (eq_none_of_foundAmong hfound)] at hfound
      have hdocuments : entry.or found = some documents := by
        simpa [foundAmong, Option.toList_eq_singleton_iff] using hfound
      rw [outcome, readMembers, hkey]
      simp only [if_neg hnot, hcolon, hvalue, expectNextMember, hclose, hdocuments]
      rfl
  | @more text behind next rest x members read comma others ih =>
      obtain ⟨name, entry⟩ := x
      obtain ⟨afterKey, afterColon, ⟨hk, hkey⟩, ⟨hc, hcolon⟩, hv, hvalue⟩ :=
        member_outcome_iff.1 read
      obtain ⟨hmore, hcomma⟩ := expectNext_more (.inr rfl) comma rfl
        (others.begins recognizes_readsMember) .endInObject .expectedCommaOrBrace
      have hnot := honce hfound ⟨hv, hvalue⟩
      rw [foundAmong_cons (eq_none_of_foundAmong hfound)] at hfound
      obtain ⟨hbehind, hothers⟩ := outcome_eq_some_iff.1 (ih hfound)
      rw [outcome, readMembers, hkey]
      simp only [if_neg hnot, hcolon, hvalue, expectNextMember, hcomma, hothers]
      rfl

/-- **Members are read as those of a bundle** if one of them, and no other, holds documents. -/
lemma outcome_readMembers_iff :
    outcome (readMembers none) (skipBlanks text) = some (documents, rest) ↔
      ∃ members, Lists readsMember '\x7d'.toUInt8 text members rest ∧
        members.filterMap Prod.snd = [documents] := by
  constructor
  · intro hread
    obtain ⟨shorter, hmembers⟩ := outcome_eq_some_iff.1 hread
    obtain ⟨members, hlists, hfound⟩ := lists_of_readMembers _ hmembers
    exact ⟨members, hlists.congr (blind_member _ _ text).symm, hfound⟩
  · rintro ⟨members, hlists, hfound⟩
    exact outcome_readMembers_of_lists hlists hfound

/-! ### Bundles -/

/-- **The text of a bundle** from its first byte on: an object with documents under the one key,
once, or an array of the documents alone. -/
inductive BundleText (bytes : Bytes) (documents : List (String × Json)) : Prop
  | object {members : List (String × Option (List (String × Json)))}
      (text : Bracketed '\x7b'.toUInt8 '\x7d'.toUInt8 (MemberText KeyText EntryText) bytes members)
      (once : members.filterMap Prod.snd = [documents])
  | array (text : Bracketed '['.toUInt8 ']'.toUInt8 (MapText 125) bytes [documents])

section

variable {first : UInt8} {tail : Bytes}

lemma outcome_readObject_nil (hskip : skipBlanks text = []) : outcome readObject text = none := by
  unfold outcome readObject
  split
  · rfl
  · next hcons => cases hskip.symm.trans hcons

/-- An object without members is no bundle, and one with members is read by them. -/
lemma outcome_readObject_cons (hskip : skipBlanks text = first :: tail) :
    outcome readObject text =
      if first = '\x7d'.toUInt8 then none else outcome (readMembers none) (first :: tail) := by
  unfold outcome readObject
  split
  · next hnil => cases hnil.symm.trans hskip
  · next b tail' hcons =>
      obtain ⟨rfl, rfl⟩ := List.cons.inj (hcons.symm.trans hskip)
      split
      · rfl
      · cases readMembers none (b :: tail') <;> rfl

lemma outcome_readArray_nil (hskip : skipBlanks text = []) : outcome readArray text = none := by
  unfold outcome readArray
  split
  · rfl
  · next hcons => cases hskip.symm.trans hcons

/-- Nothing but blanks may stand before the bracket that closes the array. -/
lemma expectArrayEnd_eq_ok_iff :
    (∃ shorter, expectArrayEnd text = .ok ⟨rest, shorter⟩) ↔
      skipBlanks text = ']'.toUInt8 :: rest := by
  constructor
  · rintro ⟨shorter, h⟩
    unfold expectArrayEnd at h
    split at h
    · cases h
    · next hskip =>
        split at h
        · next hb =>
            cases h
            exact hb ▸ hskip
        · split at h
          · split at h
            · split at h <;> cases h
            · cases h
          · cases h
  · intro h
    refine ⟨length_lt_of_skipBlanks h, ?_⟩
    unfold expectArrayEnd
    split
    · next hnil => cases hnil.symm.trans h
    · next hcons =>
        obtain ⟨rfl, rfl⟩ := List.cons.inj (hcons.symm.trans h)
        exact if_pos rfl

/-- An array is read by its one item, which has to be the documents. -/
lemma outcome_readArray_cons (hskip : skipBlanks text = first :: tail) :
    outcome readArray text = some (documents, rest) ↔
      first ≠ ']'.toUInt8 ∧ ∃ behind, outcome readDocuments (first :: tail) =
        some (documents, behind) ∧ skipBlanks behind = ']'.toUInt8 :: rest := by
  rw [outcome, readArray.eq_def]
  split
  · next hnil => cases hnil.symm.trans hskip
  · next b tail' hcons =>
      obtain ⟨rfl, rfl⟩ := List.cons.inj (hcons.symm.trans hskip)
      dsimp only
      split
      · next hclose => exact iff_of_false (fun h => by cases h) fun h => h.1 hclose
      · next hclose =>
          rw [and_iff_right hclose]
          cases hread : readDocuments (b :: tail') with
          | error fault =>
              rw [outcome_of_error hread]
              exact iff_of_false (fun h => by cases h) fun ⟨behind, h, _⟩ => by cases h
          | ok taken =>
              obtain ⟨documents', behind, hbehind⟩ := taken
              rw [outcome_of_ok hread]
              dsimp only
              cases hend : expectArrayEnd behind with
              | error fault =>
                  refine iff_of_false (fun h => by cases h) fun ⟨behind', heq, hskip'⟩ => ?_
                  cases heq
                  obtain ⟨shorter, hok⟩ := expectArrayEnd_eq_ok_iff.2 hskip'
                  cases hend.symm.trans hok
              | ok rest' =>
                  have hskip' := expectArrayEnd_eq_ok_iff.1 ⟨rest'.2, hend⟩
                  constructor
                  · intro h
                    cases h
                    exact ⟨behind, rfl, hskip'⟩
                  · rintro ⟨behind', heq, hskip''⟩
                    cases heq
                    obtain ⟨-, rfl⟩ := List.cons.inj (hskip'.symm.trans hskip'')
                    rfl

end

/-- A bundle that is an object is read up to the brace that closes it. -/
lemma outcome_readObject_iff :
    outcome readObject text = some (documents, rest) ↔
      ∃ inner, text = inner ++ '\x7d'.toUInt8 :: rest ∧ ∃ members,
        Enclosed (MemberText KeyText EntryText) inner members ∧
          members.filterMap Prod.snd = [documents] := by
  have hlists : outcome readObject text = some (documents, rest) ↔
      ∃ members, Lists readsMember '\x7d'.toUInt8 text members rest ∧
        members.filterMap Prod.snd = [documents] := by
    cases hskip : skipBlanks text with
    | nil =>
        rw [outcome_readObject_nil hskip]
        refine iff_of_false (fun h => by cases h) fun ⟨members, hmembers, _⟩ => ?_
        obtain ⟨first, tail, hcons, -⟩ := hmembers.begins recognizes_readsMember
        cases hskip.symm.trans hcons
    | cons first tail =>
        rw [outcome_readObject_cons hskip, ← hskip]
        split
        · next hclose =>
            refine iff_of_false (fun h => by cases h) fun ⟨members, hmembers, _⟩ => ?_
            exact hmembers.ne_closing recognizes_readsMember (.inr rfl) hskip hclose
        · exact outcome_readMembers_iff
  rw [hlists]
  constructor
  · rintro ⟨members, hmembers, honce⟩
    obtain ⟨inner, htext, hinner⟩ := (lists_iff recognizes_readsMember (.inr rfl)).1 hmembers
    exact ⟨inner, htext, members, .inr hinner, honce⟩
  · rintro ⟨inner, htext, members, ⟨rfl, -⟩ | hinner, honce⟩
    · cases honce
    · exact ⟨members, (lists_iff recognizes_readsMember (.inr rfl)).2 ⟨inner, htext, hinner⟩, honce⟩

/-- A bundle that is an array is read up to the bracket that closes it. -/
lemma outcome_readArray_iff :
    outcome readArray text = some (documents, rest) ↔
      ∃ inner, text = inner ++ ']'.toUInt8 :: rest ∧ Enclosed (MapText 125) inner [documents] := by
  rw [enclosed_iff recognizes_readDocuments (.inl rfl), or_iff_right fun h => by cases h.1]
  cases hskip : skipBlanks text with
  | nil =>
      rw [outcome_readArray_nil hskip]
      refine iff_of_false (fun h => by cases h) fun hlists => ?_
      obtain ⟨first, tail, hcons, -⟩ := hlists.begins recognizes_readDocuments
      cases hskip.symm.trans hcons
  | cons first tail =>
      rw [outcome_readArray_cons hskip, ← hskip, readDocuments, readMap, blind_behindBlanks]
      constructor
      · rintro ⟨-, behind, hread, hclose⟩
        exact .last hread hclose
      · intro hlists
        refine ⟨hlists.ne_closing recognizes_readDocuments (.inl rfl) hskip, ?_⟩
        cases hlists with
        | last read close => exact ⟨_, read, close⟩
        | more read comma others => cases others

/-- How a bundle is read. -/
def reader : Reader (List (String × Json)) :=
  behindBlanks fun b rest =>
    if b = '\x7b'.toUInt8 then
      match readObject rest with
      | .ok taken => .ok (taken.within (length_le_cons b rest))
      | .error fault => .error fault
    else if b = '['.toUInt8 then
      match readArray rest with
      | .ok taken => .ok (taken.within (length_le_cons b rest))
      | .error fault => .error fault
    else .error (wrongType typeName b rest)

lemma read_eq (text : Bytes) : read text = readAll reader text := rfl

/-- The first character decides whether a bundle is read as an object or as an array. -/
lemma outcome_reader {first : UInt8} {tail : Bytes} (hskip : skipBlanks text = first :: tail) :
    outcome reader text =
      if first = '\x7b'.toUInt8 then outcome readObject tail
      else if first = '['.toUInt8 then outcome readArray tail
      else none := by
  rw [reader, outcome_behindBlanks hskip]
  split_ifs
  · rw [outcome]
    cases readObject tail <;> rfl
  · rw [outcome]
    cases readArray tail <;> rfl
  · rfl

/-- **A bundle is read** as what its text holds. -/
lemma recognizes_reader : Recognizes (outcome reader) (Padded BundleText) := by
  refine recognizes_padded ?_ outcome_behindBlanks_nil ?_ ?_
  · rintro core documents (⟨htext, -⟩ | ⟨htext⟩)
    · exact htext.core (by decide) (by decide)
    · exact htext.core (by decide) (by decide)
  · intro text tail first documents rest hskip hrun
    rw [outcome_reader hskip] at hrun
    split_ifs at hrun with hbrace hbracket
    · obtain ⟨inner, rfl, members, hinner, honce⟩ := outcome_readObject_iff.1 hrun
      exact ⟨first :: (inner ++ ['\x7d'.toUInt8]), by simp,
        .object ⟨inner, hinner, hbrace ▸ rfl⟩ honce⟩
    · obtain ⟨inner, rfl, hinner⟩ := outcome_readArray_iff.1 hrun
      exact ⟨first :: (inner ++ [']'.toUInt8]), by simp, .array ⟨inner, hinner, hbracket ▸ rfl⟩⟩
  · rintro text core documents rest (⟨⟨inner, hinner, rfl⟩, honce⟩ | ⟨inner, hinner, rfl⟩) hrest
      hskip
    · rw [outcome_reader hskip, if_pos rfl]
      exact outcome_readObject_iff.2 ⟨inner, by simp, _, hinner, honce⟩
    · rw [outcome_reader hskip, if_neg (by decide), if_pos rfl]
      exact outcome_readArray_iff.2 ⟨inner, by simp, hinner⟩

/-- **The bytes hold a bundle of the documents**, with blanks around it. -/
def Holds (bytes : Bytes) (documents : List (String × Json)) : Prop :=
  ∃ text blanks, Padded BundleText text documents ∧ Blanks blanks ∧ bytes = text ++ blanks

/-- **What is read of a bundle.** -/
theorem read_eq_ok_iff {bytes : Bytes} : read bytes = .ok documents ↔ Holds bytes documents := by
  rw [read_eq]
  exact readAll_eq_ok_iff recognizes_reader

/-- No name is given twice. -/
lemma Holds.nodup_names {bytes : Bytes} (h : Holds bytes documents) :
    (documents.map Prod.fst).Nodup := by
  have hmap : ∀ {bytes}, MapText 125 bytes documents → (documents.map Prod.fst).Nodup := by
    rintro bytes ⟨blanks, core, -, ⟨pairs, -, hdocuments⟩, -⟩
    rw [hdocuments.eq_ofPairs]
    exact nodup_keys_ofPairs pairs
  obtain ⟨text, blanks, ⟨blanks', core, -, hcore, -⟩, -, -⟩ := h
  rcases hcore with ⟨⟨inner, hinner, -⟩, honce⟩ | ⟨inner, hinner, -⟩
  · obtain ⟨member, hmember, hdocuments⟩ :=
      List.mem_filterMap.1 (honce ▸ List.mem_singleton_self documents)
    obtain ⟨element, blanks, keyText, gap, value, -, -, -, hvalue, -⟩ :=
      hinner.exists_of_mem hmember
    rw [hdocuments] at hvalue
    exact hmap hvalue.2
  · obtain ⟨element, helement⟩ := hinner.exists_of_mem (List.mem_singleton_self documents)
    exact hmap helement

end Bundle

/-! ### Catalogs of bundles -/

/-- A list fails with the first of its elements that does. -/
lemma mapM_eq_error_iff {ε α β : Type} {f : α → Except ε β} {xs : List α} {error : ε} :
    xs.mapM f = .error error ↔
      ∃ before x after, xs = before ++ x :: after ∧ (∀ y ∈ before, ∃ z, f y = .ok z) ∧
        f x = .error error := by
  induction xs with
  | nil => simp [pure, Except.pure]
  | cons x xs ih =>
      rw [List.mapM_cons]
      cases hx : f x with
      | error error' =>
          constructor
          · intro h
            cases h
            exact ⟨[], x, xs, rfl, fun y hy => absurd hy List.not_mem_nil, hx⟩
          · rintro ⟨before, y, after, hxs, hbefore, hy⟩
            cases before with
            | nil =>
                obtain ⟨rfl, -⟩ := List.cons.inj hxs
                obtain rfl := Except.error.inj (hx.symm.trans hy)
                rfl
            | cons first before =>
                obtain ⟨rfl, -⟩ := List.cons.inj hxs
                obtain ⟨z, hz⟩ := hbefore x List.mem_cons_self
                cases hx.symm.trans hz
      | ok z =>
          have hbind : (do let y ← Except.ok z; let ys ← xs.mapM f; pure (y :: ys)) =
              (Except.error error : Except ε (List β)) ↔ xs.mapM f = .error error := by
            cases xs.mapM f with
            | error error' => exact Iff.rfl
            | ok ys => exact iff_of_false (fun h => by cases h) fun h => by cases h
          rw [hbind, ih]
          constructor
          · rintro ⟨before, y, after, rfl, hbefore, hy⟩
            exact ⟨x :: before, y, after, rfl, List.forall_mem_cons.2 ⟨⟨z, hx⟩, hbefore⟩, hy⟩
          · rintro ⟨before, y, after, hxs, hbefore, hy⟩
            cases before with
            | nil =>
                obtain ⟨rfl, -⟩ := List.cons.inj hxs
                cases hx.symm.trans hy
            | cons first before =>
                obtain ⟨-, rfl⟩ := List.cons.inj hxs
                exact ⟨before, y, after, rfl, (List.forall_mem_cons.1 hbefore).2, hy⟩

namespace Catalog

variable {files : Files} {path : String} {bytes : Json.Bytes} {catalog : Catalog}
  {documents : List (String × Json)}

/-- The schema that a document compiles to, if it does. -/
def compiled? (document : Json) : Option Schema := (Schema.ofJson document).toOption

/-- The schema that a document compiles to, under its name. -/
def compile (entry : String × Json) : Except CatalogError (String × Schema) :=
  match Schema.ofJson entry.2 with
  | .ok schema => .ok (entry.1, schema)
  | .error failure => .error (.schema entry.1 failure)

lemma toOption_compile (entry : String × Json) :
    (compile entry).toOption = (compiled? entry.2).map (entry.1, ·) := by
  rw [compile, compiled?]
  cases Schema.ofJson entry.2 <;> rfl

lemma exists_compile_eq_ok_iff {entry : String × Json} :
    (∃ pair, compile entry = .ok pair) ↔ ∃ schema, Schema.ofJson entry.2 = .ok schema := by
  rw [compile]
  cases Schema.ofJson entry.2 <;> simp

lemma toOption_mapM_compile (documents : List (String × Json)) :
    (documents.mapM compile).toOption =
      documents.mapM fun entry => (compiled? entry.2).map (entry.1, ·) := by
  rw [toOption_mapM]
  exact congrArg (documents.mapM ·) (funext toOption_compile)

lemma exists_mapM_compile_iff :
    (∃ pairs, documents.mapM compile = .ok pairs) ↔
      ∀ entry ∈ documents, ∃ schema, Schema.ofJson entry.2 = .ok schema := by
  simp only [← toOption_eq_some_iff, toOption_mapM_compile, ← Option.isSome_iff_exists,
    Json.isSome_mapM_iff, Option.isSome_map, compiled?]

lemma compile_eq_error_schema_iff {entry : String × Json} {name : String} {failure : Failure} :
    compile entry = .error (.schema name failure) ↔
      entry.1 = name ∧ Schema.ofJson entry.2 = .error failure := by
  rw [compile]
  cases Schema.ofJson entry.2 <;> simp

lemma loadSchemas_bundle_eq (hread : files.read path = .ok bytes)
    (h : Bundle.Holds bytes documents) :
    loadSchemas files (.bundle path) = documents.mapM compile := by
  rw [loadSchemas, loadBundle, hread]
  dsimp only
  rw [Bundle.read_eq_ok_iff.2 h]
  rfl

lemma load_bundle_eq_ok_iff (hread : files.read path = .ok bytes)
    (h : Bundle.Holds bytes documents) :
    load files (.bundle path) = .ok catalog ↔
      ∃ pairs, documents.mapM compile = .ok pairs ∧
        catalog = ⟨.ofList pairs, .origin (.bundle path)⟩ := by
  rw [load_eq_ok_iff, loadSchemas_bundle_eq hread h]

lemma load_bundle_eq_error_iff (hread : files.read path = .ok bytes)
    (h : Bundle.Holds bytes documents) {error : CatalogError} :
    load files (.bundle path) = .error error ↔ documents.mapM compile = .error error := by
  rw [load, loadSchemas_bundle_eq hread h]
  cases documents.mapM compile <;> simp [Except.map]

/-- The first document that does not compile is to blame. -/
lemma mapM_compile_eq_error_iff {name : String} {failure : Failure} :
    documents.mapM compile = .error (.schema name failure) ↔
      ∃ before document after, documents = before ++ (name, document) :: after ∧
        (∀ entry ∈ before, ∃ schema, Schema.ofJson entry.2 = .ok schema) ∧
        Schema.ofJson document = .error failure := by
  simp only [mapM_eq_error_iff, exists_compile_eq_ok_iff, compile_eq_error_schema_iff]
  constructor
  · rintro ⟨before, ⟨name', document⟩, after, hdocuments, hbefore, rfl, hfailure⟩
    exact ⟨before, document, after, hdocuments, hbefore, hfailure⟩
  · rintro ⟨before, document, after, hdocuments, hbefore, hfailure⟩
    exact ⟨before, (name, document), after, hdocuments, hbefore, rfl, hfailure⟩

/-- No other failure is about a bundle that holds documents. -/
lemma mapM_compile_ne_json (message : String) :
    documents.mapM compile ≠ .error (.json message) := by
  intro h
  obtain ⟨before, entry, after, -, -, hentry⟩ := mapM_eq_error_iff.1 h
  rw [compile] at hentry
  split at hentry <;> cases hentry

/-- A file that holds no bundle fails with a message about its text. -/
lemma load_bundle_of_not_holds (hread : files.read path = .ok bytes)
    (h : ¬∃ documents, Bundle.Holds bytes documents) :
    ∃ message, load files (.bundle path) = .error (.json message) := by
  rw [load, loadSchemas, loadBundle, hread]
  dsimp only
  cases hbundle : Bundle.read bytes with
  | error fault => exact ⟨_, rfl⟩
  | ok documents => exact absurd ⟨documents, Bundle.read_eq_ok_iff.1 hbundle⟩ h

/-- **The catalog is that of the bundle**: it has the schema of each document under its name. -/
structure OfBundle (catalog : Catalog) (path : String) (documents : List (String × Json)) :
    Prop where
  source : catalog.source = .origin (.bundle path)
  get?_iff : ∀ name schema, catalog.get? name = some schema ↔
    ∃ document, (name, document) ∈ documents ∧ Schema.ofJson document = .ok schema

/-- The catalog of documents that all compile. -/
lemma ofBundle_of_mapM {pairs : List (String × Schema)} (h : Bundle.Holds bytes documents)
    (hpairs : documents.mapM compile = .ok pairs) :
    OfBundle ⟨.ofList pairs, .origin (.bundle path)⟩ path documents where
  source := rfl
  get?_iff name schema := by
    have hmap : documents.mapM (fun entry => (compiled? entry.2).map (entry.1, ·)) =
        some pairs := by
      rw [← toOption_mapM_compile, hpairs]
      rfl
    have hnodup : (pairs.map Prod.fst).Nodup := map_fst_of_mapM hmap ▸ h.nodup_names
    rw [get?, NameMap.get?_ofList hnodup, lookup_of_mapM hmap, Option.bind_eq_some_iff]
    simp only [Json.lookup_eq_some_iff_mem h.nodup_names, compiled?, toOption_eq_some_iff]

/-- **What is loaded of a bundle**: the catalog of its documents if all of them compile, the failure
of the first one that does not, and no catalog of any other text. -/
theorem load_bundle_holds (hread : files.read path = .ok bytes) :
    ((∃ catalog, load files (.bundle path) = .ok catalog) ↔
      ∃ documents, Bundle.Holds bytes documents ∧
        ∀ entry ∈ documents, ∃ schema, Schema.ofJson entry.2 = .ok schema) ∧
    (∀ catalog documents, load files (.bundle path) = .ok catalog →
      Bundle.Holds bytes documents → OfBundle catalog path documents) ∧
    (∀ name failure, load files (.bundle path) = .error (.schema name failure) ↔
      ∃ before document after, Bundle.Holds bytes (before ++ (name, document) :: after) ∧
        (∀ entry ∈ before, ∃ schema, Schema.ofJson entry.2 = .ok schema) ∧
        Schema.ofJson document = .error failure) ∧
    ((∃ message, load files (.bundle path) = .error (.json message)) ↔
      ¬∃ documents, Bundle.Holds bytes documents) := by
  -- A text that holds no documents fails as such.
  have hcases : (∃ documents, Bundle.Holds bytes documents) ∨
      ∃ message, load files (.bundle path) = .error (.json message) :=
    or_iff_not_imp_left.2 (load_bundle_of_not_holds hread)
  refine ⟨⟨?_, ?_⟩, fun catalog documents hload h => ?_, fun name failure => ⟨fun hload => ?_, ?_⟩,
    ?_, load_bundle_of_not_holds hread⟩
  · rintro ⟨catalog, hload⟩
    rcases hcases with ⟨documents, h⟩ | ⟨message, hfail⟩
    · obtain ⟨pairs, hpairs, -⟩ := (load_bundle_eq_ok_iff hread h).1 hload
      exact ⟨documents, h, exists_mapM_compile_iff.1 ⟨pairs, hpairs⟩⟩
    · cases hload.symm.trans hfail
  · rintro ⟨documents, h, hcompile⟩
    obtain ⟨pairs, hpairs⟩ := exists_mapM_compile_iff.2 hcompile
    exact ⟨_, (load_bundle_eq_ok_iff hread h).2 ⟨pairs, hpairs, rfl⟩⟩
  · obtain ⟨pairs, hpairs, rfl⟩ := (load_bundle_eq_ok_iff hread h).1 hload
    exact ofBundle_of_mapM h hpairs
  · rcases hcases with ⟨documents, h⟩ | ⟨message, hfail⟩
    · obtain ⟨before, document, after, rfl, hfailure⟩ :=
        mapM_compile_eq_error_iff.1 ((load_bundle_eq_error_iff hread h).1 hload)
      exact ⟨before, document, after, h, hfailure⟩
    · cases hload.symm.trans hfail
  · rintro ⟨before, document, after, h, hfailure⟩
    exact (load_bundle_eq_error_iff hread h).2
      (mapM_compile_eq_error_iff.2 ⟨before, document, after, rfl, hfailure⟩)
  · rintro ⟨message, hfail⟩ ⟨documents, h⟩
    exact mapM_compile_ne_json message ((load_bundle_eq_error_iff hread h).1 hfail)

/-- A key that nobody reads, and a name that is given twice. -/
theorem load_bundle_holds_repeated :
    let bytes := Json.bytesOf
      "\x7b\"v\": 1, \"schemas\": \x7b\"a\": null, \"b\": \x7b\x7d, \"a\": \x7b\x7d\x7d\x7d\n"
    let files : Files := ⟨fun _ => .ok bytes, fun _ => .error .notDirectory⟩
    files.read "b.json" = .ok bytes ∧ ∃ catalog, load files (.bundle "b.json") = .ok catalog ∧
      catalog.get? "a" = some ⟨[], false⟩ ∧ catalog.get? "b" = some ⟨[], false⟩ := by
  intro bytes files
  have hholds : Bundle.Holds bytes [("a", .object []), ("b", .object [])] :=
    Bundle.read_eq_ok_iff.1 (by dsimp only [bytes]; cbv)
  have hschema : Schema.ofJson (.object []) = .ok ⟨[], false⟩ := by cbv
  have hread : files.read "b.json" = .ok bytes := rfl
  obtain ⟨hload, hcatalog, -⟩ := load_bundle_holds hread
  obtain ⟨catalog, hcatalog'⟩ := hload.2 ⟨_, hholds, by simp [hschema]⟩
  have hget := (hcatalog _ _ hcatalog' hholds).get?_iff
  exact ⟨hread, catalog, hcatalog', (hget _ _).2 ⟨_, by simp, hschema⟩,
    (hget _ _).2 ⟨_, by simp, hschema⟩⟩

/-- **A bundle that is no object**: an array is read as one, too, if documents are its one item. -/
theorem exists_load_bundle_array :
    let bytes := Json.bytesOf "[\x7b\"a\":\x7b\x7d\x7d]"
    let files : Files := ⟨fun _ => .ok bytes, fun _ => .error .notDirectory⟩
    Json.read bytes = .ok (.array [.object [("a", .object [])]]) ∧
      ∃ catalog, load files (.bundle "b.json") = .ok catalog ∧
        catalog.get? "a" = some ⟨[], false⟩ := by
  intro bytes files
  have hholds : Bundle.Holds bytes [("a", .object [])] :=
    Bundle.read_eq_ok_iff.1 (by dsimp only [bytes]; cbv)
  have hschema : Schema.ofJson (.object []) = .ok ⟨[], false⟩ := by cbv
  obtain ⟨pairs, hpairs⟩ := exists_mapM_compile_iff.2
    (show ∀ entry ∈ [("a", Json.object [])], ∃ schema, Schema.ofJson entry.2 = .ok schema by
      simp [hschema])
  refine ⟨by dsimp only [bytes]; cbv, _,
    (load_bundle_eq_ok_iff rfl hholds).2 ⟨pairs, hpairs, rfl⟩, ?_⟩
  exact ((ofBundle_of_mapM hholds hpairs).get?_iff _ _).2 ⟨_, by simp, hschema⟩

end Catalog

end SchemaCheck
