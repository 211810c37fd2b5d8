import Mathlib.Data.List.Forall2
import Compendium.Proofs.Request.Lists
import Compendium.Proofs.Request.Mistakes
import Compendium.Statement.PageQuery

/-!
# Compendium — ids in any spelling

A filter with a lookup reads ids, and how an id is spelled (as a number, with a sign or with zeros in
front, as one of its names, in any case and with any blanks around it) is forgotten as soon as the
lookup has answered. So a text may be replaced by any other that spells the same ids one by one, and
the request is the same, down to its statement.

* `Filter.SameIds` says that two texts spell the same ids, and `Filter.interpret_eq_of_sameIds` that
  the filter reads them alike.
* `Listing.Respelled` are two lists of pairs that differ in spellings only.
* `respelled_ids_are_the_same_request` is the law.
-/

namespace Compendium

/-! ## Spellings of an id -/

/-- The lookup has the same id for both texts. -/
def LookupSet.SameId (lookups : LookupSet) (name text text' : String) : Prop :=
  ∃ id, lookups.resolve name text = .ok (some id) ∧ lookups.resolve name text' = .ok (some id)

/-- No lookup has an id for a blank text. -/
theorem LookupSet.not_isBlankText_of_resolve {lookups : LookupSet} {name text : String} {id : Int64}
    (h : lookups.resolve name text = .ok (some id)) : Text.isBlankText text = false := by
  unfold LookupSet.resolve at h
  split at h
  · rename_i lookup _
    rw [Lookup.resolve] at h
    rcases hready : lookup.index with e | index <;> rw [hready] at h
    · cases h
    · have hindex : index.resolve text = some id := Except.ok.inj h
      -- the index answers a blank text with none
      unfold NameIndex.resolve at hindex
      simp only at hindex
      split at hindex
      · cases hindex
      · rename_i hblank
        exact Bool.eq_false_iff.2 hblank
  · cases h

/-- Texts that spell the same ids one by one come to one list of ids. -/
theorem LookupSet.exists_ids_of_sameId {lookups : LookupSet} {name : String}
    {texts texts' : List String} (h : List.Forall₂ (lookups.SameId name) texts texts') :
    ∃ ids : List Int64, texts.map (lookups.resolve name) = ids.map (fun id => .ok (some id))
      ∧ texts'.map (lookups.resolve name) = ids.map (fun id => .ok (some id)) := by
  induction h with
  | nil => exact ⟨[], rfl, rfl⟩
  | cons hsame _ ih =>
    obtain ⟨id, hid, hid'⟩ := hsame
    obtain ⟨ids, hids, hids'⟩ := ih
    refine ⟨id :: ids, ?_, ?_⟩
    · rw [List.map_cons, List.map_cons, hid, hids]
    · rw [List.map_cons, List.map_cons, hid', hids']

namespace Filter

/-- What a filter with a lookup looks up: the items of a list, or the whole text. -/
def elements (f : Filter) (text : String) : List String :=
  if f.takesMany then (ParamValue.once text).items else [text]

theorem elements_of_takesMany {f : Filter} (h : f.takesMany = true) (text : String) :
    f.elements text = (ParamValue.once text).items :=
  if_pos h

theorem elements_of_not_takesMany {f : Filter} (h : f.takesMany = false) (text : String) :
    f.elements text = [text] :=
  if_neg (by rw [h]; exact Bool.false_ne_true)

/-- The filter has a lookup and is no search, and the texts spell the same ids in it one by one. -/
def SameIds (f : Filter) (lookups : LookupSet) (text text' : String) : Prop :=
  f.isSubstring = false ∧ ∃ name, f.lookup = some name
    ∧ List.Forall₂ (lookups.SameId name) (f.elements text) (f.elements text')

variable {f : Filter} {lookups : LookupSet} {key name text : String} {param : ParamValue}

/-- A list whose items all have ids is read as these. -/
theorem interpret_of_ids (hmany : f.takesMany = true) (hready : f.CanLookUp lookups)
    (hlookup : f.lookup = some name) {ids : List Int64}
    (hids : param.items.map (lookups.resolve name) = ids.map fun id => .ok (some id)) :
    f.interpret lookups key param
      = .ok (if ids = [] then .blank else .value (.list (ids.map Scalar.int).eraseDups)) := by
  -- each item comes to the id that the lookup has for it
  have hscalars : param.items.map (f.scalarOf? lookups) = ids.map fun id => some (.int id) := by
    have hofResolve : f.scalarOf? lookups
        = (fun r => r.toOption.join.map Scalar.int) ∘ lookups.resolve name := by
      funext item
      rw [scalarOf?, hlookup]
      rfl
    rw [hofResolve, ← List.map_map, hids, List.map_map]
    rfl
  cases ids with
  | nil =>
    rw [if_pos rfl]
    exact interpret_of_items_eq_nil hmany (List.map_eq_nil_iff.1 hids)
  | cons id ids =>
    have hknown : f.unknown lookups param.items = [] := by
      rw [unknown, hlookup, Option.isSome_some, if_pos rfl, List.filter_eq_nil_iff]
      intro item hitem hnone
      have hmem := List.mem_map_of_mem (f := f.scalarOf? lookups) hitem
      rw [hscalars, Option.isNone_iff_eq_none.1 hnone] at hmem
      simp at hmem
    -- no item is dropped, since every one has an id
    have hfilterMap : param.items.filterMap (f.scalarOf? lookups) = (id :: ids).map Scalar.int := by
      have hmap := congrArg (List.filterMap fun scalar => scalar) hscalars
      rw [List.filterMap_map, List.filterMap_map] at hmap
      exact hmap.trans (congrFun List.filterMap_eq_map _)
    rw [if_neg (List.cons_ne_nil _ _), ← hfilterMap]
    refine interpret_of_scalars hmany hready hknown ?_
    rw [hfilterMap]
    exact List.cons_ne_nil _ _

/-- A text that has an id is read as that. -/
theorem interpret_of_id (hmany : f.takesMany = false) (hsubstring : f.isSubstring = false)
    (hlookup : f.lookup = some name) {id : Int64}
    (hid : lookups.resolve name text = .ok (some id)) :
    f.interpret lookups key (.once text) = .ok (.value (.single (.int id))) := by
  have hblank := LookupSet.not_isBlankText_of_resolve hid
  have hhead : (ParamValue.once text).head = text := rfl
  simp only [interpret, interpretOne, hmany, hsubstring, hlookup, hhead, hblank, hid,
    Bool.false_eq_true, if_false]
  rfl

/-- A filter reads no more of a text than the ids that it spells. -/
theorem interpret_eq_of_sameIds {text' : String} (hready : f.CanLookUp lookups)
    (h : f.SameIds lookups text text') :
    f.interpret lookups key (.once text) = f.interpret lookups key (.once text') := by
  obtain ⟨hsubstring, name, hlookup, hsame⟩ := h
  -- a single id, or a list of them, is all that is kept
  rcases hmany : f.takesMany with _ | _
  · rw [elements_of_not_takesMany hmany, elements_of_not_takesMany hmany] at hsame
    obtain ⟨⟨id, hid, hid'⟩, -⟩ := List.forall₂_cons.1 hsame
    rw [interpret_of_id hmany hsubstring hlookup hid, interpret_of_id hmany hsubstring hlookup hid']
  · rw [elements_of_takesMany hmany, elements_of_takesMany hmany] at hsame
    obtain ⟨ids, hids, hids'⟩ := LookupSet.exists_ids_of_sameId hsame
    rw [interpret_of_ids hmany hready hlookup hids, interpret_of_ids hmany hready hlookup hids']

end Filter

/-! ## Pairs in other spellings -/

section

variable {listing : Listing} {lookups : LookupSet}

/-- A pair as it may stand in place of another one of `pairs`: the same pair, or the one pair with the
key of a filter and a text that spells the same ids. -/
inductive Listing.Respells (listing : Listing) (lookups : LookupSet)
    (pairs : List (String × String)) : String × String → String × String → Prop
  | same (pair : String × String) : Respells listing lookups pairs pair pair
  | ids {key text text' : String} {filter : Filter}
      (honce : (pairs.map Prod.fst).count key = 1)
      (hfilter : listing.filters.get? key = some filter)
      (h : filter.SameIds lookups text text') :
      Respells listing lookups pairs (key, text) (key, text')

/-- The same keys in the same order, with the same texts but for the spelling of ids. -/
def Listing.Respelled (listing : Listing) (lookups : LookupSet)
    (pairs pairs' : List (String × String)) : Prop :=
  List.Forall₂ (listing.Respells lookups pairs) pairs pairs'

namespace Listing.Respells

variable {all pairs pairs' : List (String × String)}

theorem map_fst_eq (h : List.Forall₂ (listing.Respells lookups all) pairs pairs') :
    pairs.map Prod.fst = pairs'.map Prod.fst := by
  induction h with
  | nil => rfl
  | cons hpair _ ih =>
    rw [List.map_cons, List.map_cons, ih]
    cases hpair <;> rfl

/-- The texts of a key are respelled one by one. -/
theorem forall₂_textsOf (h : List.Forall₂ (listing.Respells lookups all) pairs pairs')
    (key : String) :
    List.Forall₂ (fun text text' => listing.Respells lookups all (key, text) (key, text'))
      (textsOf pairs key) (textsOf pairs' key) := by
  induction h with
  | nil => exact .nil
  | @cons pair pair' pairs pairs' hpair _ ih =>
    obtain ⟨first, text⟩ := pair
    obtain ⟨first', text'⟩ := pair'
    have hfirst : first = first' := by cases hpair <;> rfl
    subst hfirst
    rw [textsOf_cons, textsOf_cons]
    -- a pair adds to the texts of its own key, on both sides or on neither
    by_cases hkey : first = key
    · subst hkey
      rw [if_pos rfl, if_pos rfl]
      exact .cons hpair ih
    · rw [if_neg hkey, if_neg hkey]
      exact ih

end Listing.Respells

namespace Listing.Respelled

variable {pairs pairs' : List (String × String)} (h : listing.Respelled lookups pairs pairs')

include h

theorem keysOf_eq : keysOf pairs = keysOf pairs' := by
  rw [keysOf, keysOf, Respells.map_fst_eq h]

/-- Where no text may be replaced by another the texts are the same. -/
theorem textsOf_eq {key : String}
    (hsame : ∀ text text', listing.Respells lookups pairs (key, text) (key, text') → text = text') :
    textsOf pairs key = textsOf pairs' key := by
  have hforall := (Respells.forall₂_textsOf h key).imp hsame
  rw [List.forall₂_eq_eq_eq] at hforall
  exact hforall

/-- A key that may be respelled comes with one text, and any other with the texts it had. -/
theorem readParam_eq (hready : listing.LookupsAnswer lookups) (key : String) :
    listing.readParam lookups key (.ofTexts (textsOf pairs key))
      = listing.readParam lookups key (.ofTexts (textsOf pairs' key)) := by
  -- a key that comes twice may not be respelled
  by_cases honce : (pairs.map Prod.fst).count key = 1
  · have htexts := Respells.forall₂_textsOf h key
    obtain ⟨text, htext⟩ := List.length_eq_one_iff.1 ((length_textsOf pairs key).trans honce)
    rw [htext] at htexts ⊢
    obtain ⟨text', rest, hpair, hrest, htext'⟩ := List.forall₂_cons_left_iff.1 htexts
    rw [htext', List.forall₂_nil_left_iff.1 hrest]
    cases hpair with
    | same => rfl
    | @ids _ _ _ filter _ hfilter hsame =>
      have hinterpret : filter.interpret lookups key (.once text)
          = filter.interpret lookups key (.once text') :=
        Filter.interpret_eq_of_sameIds (hready key filter hfilter) hsame
      simp only [ParamValue.ofTexts, readParam, hfilter, hinterpret]
  · rw [textsOf_eq h]
    intro text text' hpair
    cases hpair with
    | same => rfl
    | ids honce' _ _ => exact absurd honce' honce

/-- The parameters that every list takes are no filters, so they stay as they are. -/
theorem get?_eq (haccepted : listing.Accepted) {key : String} (hkey : key ∈ reservedParams) :
    (QueryParams.ofPairs pairs).get? key = (QueryParams.ofPairs pairs').get? key := by
  have htexts : textsOf pairs key = textsOf pairs' key := by
    refine textsOf_eq h fun text text' hpair => ?_
    cases hpair with
    | same => rfl
    | ids _ hfilter _ => exact absurd hkey (haccepted.notMem_reservedParams hfilter)
  rw [QueryParams.get?_ofPairs, QueryParams.get?_ofPairs, htexts, h.keysOf_eq]

theorem head?_eq (haccepted : listing.Accepted) {key : String} (hkey : key ∈ reservedParams) :
    (QueryParams.ofPairs pairs).head? key = (QueryParams.ofPairs pairs').head? key := by
  rw [QueryParams.head?, QueryParams.head?, h.get?_eq haccepted hkey]

/-- The request is put together from the same readings, and from the same parameters that every list
takes. -/
theorem readRequest_eq (haccepted : listing.Accepted) (hready : listing.LookupsAnswer lookups) :
    listing.readRequest lookups (.ofPairs pairs) = listing.readRequest lookups (.ofPairs pairs') := by
  have hsearch : listing.searchOf (.ofPairs pairs) = listing.searchOf (.ofPairs pairs') := by
    rw [searchOf, searchOf, h.get?_eq haccepted (by decide), h.head?_eq haccepted (by decide)]
  refine readRequest_congr h.keysOf_eq (h.readParam_eq hready) hsearch fun key hkey => ?_
  have hreserved : ∀ key ∈ ["page", "limit", "sort", "order"], key ∈ reservedParams := by decide
  exact h.head?_eq haccepted (hreserved key hkey)

end Listing.Respelled

end

/-- While the lookups answer, pairs in which ids are spelled in another way are read as the same
request, and so they come to the same statement with the same values, or to the same failure. -/
theorem respelled_ids_are_the_same_request {listing : Listing} (haccepted : listing.Accepted)
    {lookups : LookupSet} (hready : listing.LookupsAnswer lookups)
    {pairs pairs' : List (String × String)} (h : listing.Respelled lookups pairs pairs') :
    ∃ request request', listing.readRequest lookups (.ofPairs pairs) = .ok request
      ∧ listing.readRequest lookups (.ofPairs pairs') = .ok request'
      ∧ request = request'
      ∧ ∀ backend, listing.pageQuery request backend = listing.pageQuery request' backend := by
  obtain ⟨request, hread⟩ := Listing.exists_readRequest haccepted hready (.ofPairs pairs)
  have hread' := hread
  rw [h.readRequest_eq haccepted hready] at hread'
  exact ⟨request, request, hread, hread', rfl, fun _ => rfl⟩

namespace Spells

def classEntries : List NameEntry := [⟨3, ["Wizard", "Wiz"]⟩, ⟨7, ["Cleric", "Clr"]⟩]

def editionEntries : List NameEntry := [⟨4, ["3E"]⟩, ⟨5, ["3.5E"]⟩]

/-- The lookups that spells need, filled by hand. -/
def readyLookups : LookupSet where
  lookups :=
    [ .ofEntries "classes" classEntries, .ofEntries "editions" editionEntries,
      .ofEntries "schools" [], .ofEntries "subschools" [], .ofEntries "descriptors" [],
      .ofEntries "components" [], .ofEntries "sources" [] ]

theorem lookupsAnswer_readyLookups {listing : Listing} (h : declaration.build = .ok listing) :
    listing.LookupsAnswer readyLookups :=
  Listing.lookupsAnswer_of_build h (by decide)

/-- Two classes and an edition by their names. -/
def byNames : List (String × String) :=
  [ ("classId", "Wizard,Cleric"), ("limit", "5"), ("classId_logic", "and"), ("edition_id", "3.5E") ]

/-- The same by an abbreviation and by numbers. -/
def byNumbers : List (String × String) :=
  [ ("classId", "wIZ , +07"), ("limit", "5"), ("classId_logic", "and"), ("edition_id", " 005") ]

/-- Two texts spell the same id if the entries say so. -/
theorem sameId_readyLookups (id : Int64) {name text text' : String} {entries : List NameEntry}
    (hfind : readyLookups.find? name = some (.ofEntries name entries))
    (h : NameIndex.resolveIn entries text = some id)
    (h' : NameIndex.resolveIn entries text' = some id) : readyLookups.SameId name text text' := by
  refine ⟨id, ?_, ?_⟩
  · rw [LookupSet.resolve_of_find? hfind, h]
  · rw [LookupSet.resolve_of_find? hfind, h']

/-- The two lists of pairs differ in the spelling of two classes and of an edition. -/
theorem respelled_byNumbers {listing : Listing} (h : declaration.build = .ok listing) :
    listing.Respelled readyLookups byNames byNumbers := by
  have hfilter : ∀ e ∈ declaration.filters, listing.filters.get? e.1 = some e.2 := by
    intro e he
    rw [OrderedMap.get?_eq_some_iff, (Declaration.builtInto_of_build h).filters]
    exact he
  have hclasses : classes.SameIds readyLookups "Wizard,Cleric" "wIZ , +07" := by
    have helements : classes.elements "Wizard,Cleric" = ["Wizard", "Cleric"]
        ∧ classes.elements "wIZ , +07" = ["wIZ", "+07"] := by
      decide +kernel
    refine ⟨rfl, "classes", rfl, ?_⟩
    rw [helements.1, helements.2]
    exact .cons (sameId_readyLookups 3 rfl (by decide +kernel) (by decide +kernel))
      (.cons (sameId_readyLookups 7 rfl (by decide +kernel) (by decide +kernel)) .nil)
  have hedition : edition.SameIds readyLookups "3.5E" " 005" :=
    ⟨rfl, "editions", rfl,
      .cons (sameId_readyLookups 5 rfl (by decide +kernel) (by decide +kernel)) .nil⟩
  refine .cons (.ids (by decide) (hfilter ("classId", classes) (by simp [declaration])) hclasses)
    (.cons (.same _) (.cons (.same _) (.cons ?_ .nil)))
  exact .ids (by decide) (hfilter ("edition_id", edition) (by simp [declaration])) hedition

end Spells

/-- Names in a list and by themselves may be replaced by numbers, with signs, zeros and blanks. -/
theorem respelled_ids_are_the_same_request_spells :
    ∃ listing, Spells.declaration.build = .ok listing
      ∧ listing.LookupsAnswer Spells.readyLookups
      ∧ listing.Respelled Spells.readyLookups Spells.byNames Spells.byNumbers
      ∧ ∃ request, listing.readRequest Spells.readyLookups (.ofPairs Spells.byNames) = .ok request
        ∧ listing.readRequest Spells.readyLookups (.ofPairs Spells.byNumbers) = .ok request := by
  obtain ⟨listing, hbuild⟩ := Resource.spells.exists_build
  have hready := Spells.lookupsAnswer_readyLookups hbuild
  have hrespelled := Spells.respelled_byNumbers hbuild
  obtain ⟨request, request', hread, hread', rfl, -⟩ :=
    respelled_ids_are_the_same_request ⟨_, hbuild⟩ hready hrespelled
  exact ⟨listing, hbuild, hready, hrespelled, request, hread, hread'⟩

end Compendium
