import Mathlib.Data.List.Nodup
import Compendium.Proofs.QueryParams.Grouping
import Compendium.Proofs.Request.Readings
import Compendium.Proofs.Listing.Accepted
import Compendium.Statement.PageQuery

/-!
# Compendium — parameters in another order

Every parameter is read by itself, so a request says the same in whatever order its parameters come,
as long as the texts of one key stay in theirs. What keeps the order of the parameters is the order of
the values and that of the errors; the values in their order are all that a statement sees of it.

* `Reordered` is the same pairs in another order, and `Reordered.perm_toList` says that they are
  grouped into the same parameters in another order.
* `ListRequest.SameUpToOrder` is what two such requests have in common.
* `Listing.pageQuery_eq_of_values` says what a query depends on.
* `order_matters_for_filters_only` puts them together.
-/

namespace Compendium

/-- Maps that are filled with the same entries in another order have the same under every key. -/
theorem OrderedMap.get?_ofList_perm {α : Type} {es es' : List (String × α)} (h : es.Perm es')
    (hkeys : (es.map Prod.fst).Nodup) (key : String) :
    (OrderedMap.ofList es).get? key = (OrderedMap.ofList es').get? key := by
  have hkeys' : (es'.map Prod.fst).Nodup := (h.map Prod.fst).nodup_iff.1 hkeys
  apply Option.ext
  intro v
  rw [get?_eq_some_iff, get?_eq_some_iff, toList_ofList hkeys, toList_ofList hkeys', h.mem_iff]

/-! ## Pairs in another order -/

/-- The same pairs, and those with one key in the same order. -/
def Reordered (pairs pairs' : List (String × String)) : Prop :=
  pairs.Perm pairs' ∧ ∀ key ∈ keysOf pairs, textsOf pairs key = textsOf pairs' key

instance (pairs pairs' : List (String × String)) : Decidable (Reordered pairs pairs') :=
  inferInstanceAs (Decidable (_ ∧ _))

namespace Reordered

variable {pairs pairs' : List (String × String)} (h : Reordered pairs pairs')

include h

theorem mem_keysOf_iff (key : String) : key ∈ keysOf pairs ↔ key ∈ keysOf pairs' := by
  rw [mem_keysOf, mem_keysOf, (h.1.map Prod.fst).mem_iff]

/-- Every key has the same texts, and one that does not appear has none. -/
theorem textsOf_eq (key : String) : textsOf pairs key = textsOf pairs' key := by
  by_cases hkey : key ∈ keysOf pairs
  · exact h.2 key hkey
  · have hkey' : key ∉ keysOf pairs' := fun hmem => hkey ((h.mem_keysOf_iff key).2 hmem)
    rw [textsOf_eq_nil_iff.2 hkey, textsOf_eq_nil_iff.2 hkey']

theorem get?_eq (key : String) :
    (QueryParams.ofPairs pairs).get? key = (QueryParams.ofPairs pairs').get? key := by
  rw [QueryParams.get?_ofPairs, QueryParams.get?_ofPairs, h.textsOf_eq key]
  simp only [h.mem_keysOf_iff key]

theorem head?_eq (key : String) :
    (QueryParams.ofPairs pairs).head? key = (QueryParams.ofPairs pairs').head? key := by
  rw [QueryParams.head?, QueryParams.head?, h.get?_eq]

/-- They are grouped into the same parameters, which stand in another order. -/
theorem perm_toList :
    (QueryParams.ofPairs pairs).toList.Perm (QueryParams.ofPairs pairs').toList := by
  have hnodup : ∀ params : QueryParams, params.toList.Nodup := fun params =>
    List.Nodup.of_map Prod.fst params.nodup_keys
  -- lists without repetitions are the same up to order if they have the same members
  rw [List.perm_ext_iff_of_nodup (hnodup _) (hnodup _)]
  rintro ⟨key, param⟩
  rw [← OrderedMap.get?_eq_some_iff, ← OrderedMap.get?_eq_some_iff, h.get?_eq]

end Reordered

/-! ## What the requests have in common -/

/-- The two requests differ in the order of their values and of their errors at most. -/
structure ListRequest.SameUpToOrder (r r' : ListRequest) : Prop where
  values : ∀ key, r.selection.values.get? key = r'.selection.values.get? key
  quantifiers : ∀ key, r.selection.quantifiers.get? key = r'.selection.quantifiers.get? key
  search : r.selection.search = r'.selection.search
  pagination : r.pagination = r'.pagination
  sort : r.sort = r'.sort
  alternate : r.alternate = r'.alternate
  errors : r.errors.Perm r'.errors

namespace Listing

variable {listing : Listing} {lookups : LookupSet}

/-- A quantifier is read from the companion of the filter that it is for. -/
theorem key_of_quantifier?_reading {e : String × ParamValue} {entry : String × Quantifier}
    (h : (listing.reading lookups e).quantifier? = some entry) :
    e.1 = entry.1 ++ companionSuffix := by
  rcases hreading : listing.reading lookups e with _ | ⟨owner, q⟩ | _ | _
  · rw [hreading] at h
    cases h
  · rw [hreading] at h
    cases h
    have hread := (reading_eq_iff (by simp)).1 hreading
    obtain ⟨-, -, -, howner, -⟩ := takesLogic_of_readParam hread
    exact companionOf?_eq_some_iff.1 howner
  · rw [hreading] at h
    cases h
  · rw [hreading] at h
    cases h

variable (listing lookups) in
/-- The quantifiers stand in the order of the companions that they were read from. -/
theorem companions_quantifiers_sublist (entries : List (String × ParamValue)) :
    (((entries.map (listing.reading lookups)).filterMap Reading.quantifier?).map
      (·.1 ++ companionSuffix)).Sublist (entries.map Prod.fst) := by
  induction entries with
  | nil => exact List.Sublist.slnil
  | cons e es ih =>
    rw [List.map_cons, List.filterMap_cons]
    -- a reading gives the quantifier of its parameter's owner or none
    rcases hquantifier : (listing.reading lookups e).quantifier? with _ | entry
    · exact ih.cons e.1
    · simp only [List.map_cons, key_of_quantifier?_reading hquantifier]
      exact ih.cons_cons _

/-- No filter gets two quantifiers. -/
theorem nodup_keys_quantifiers (params : QueryParams) :
    (((params.toList.map (listing.reading lookups)).filterMap Reading.quantifier?).map
      Prod.fst).Nodup := by
  have hsublist := (companions_quantifiers_sublist listing lookups params.toList).nodup
    params.nodup_keys
  -- the suffix does not make two keys one
  refine List.Nodup.of_map (· ++ companionSuffix) ?_
  rw [List.map_map]
  exact hsublist

section

variable {pairs pairs' : List (String × String)} (h : Reordered pairs pairs')

include h

variable (listing lookups) in
/-- Whether reading fails does not depend on the order of what is read. -/
theorem exists_readRequest_iff :
    (∃ r, listing.readRequest lookups (.ofPairs pairs) = .ok r)
      ↔ ∃ r, listing.readRequest lookups (.ofPairs pairs') = .ok r := by
  simp only [readRequest_eq_ok_iff, exists_and_left, exists_eq, and_true, h.perm_toList.mem_iff]

theorem searchOf_eq :
    listing.searchOf (.ofPairs pairs) = listing.searchOf (.ofPairs pairs') := by
  rw [searchOf, searchOf, h.get?_eq, h.head?_eq]

/-- What is gathered from readings in another order differs in the order only. -/
theorem sameUpToOrder_of_reordered {r r' : ListRequest}
    (hr : listing.readRequest lookups (.ofPairs pairs) = .ok r)
    (hr' : listing.readRequest lookups (.ofPairs pairs') = .ok r') : r.SameUpToOrder r' := by
  obtain ⟨-, rfl⟩ := readRequest_eq_ok_iff.1 hr
  obtain ⟨-, rfl⟩ := readRequest_eq_ok_iff.1 hr'
  have hreadings := h.perm_toList.map (listing.reading lookups)
  have hvalues : ((((QueryParams.ofPairs pairs).toList.map (listing.reading lookups)).filterMap
      Reading.value?).map Prod.fst).Nodup :=
    (keys_values_sublist _).nodup (QueryParams.ofPairs pairs).nodup_keys
  refine ⟨fun key => ?_, fun key => ?_, ?_, ?_, ?_, ?_, ?_⟩
  · exact OrderedMap.get?_ofList_perm (hreadings.filterMap _) hvalues key
  · exact OrderedMap.get?_ofList_perm (hreadings.filterMap _) (nodup_keys_quantifiers _) key
  · simp only [gather, searchOf_eq h]
  · simp only [gather, h.head?_eq]
  · simp only [gather, h.head?_eq]
  · exact hreadings.any_eq
  · simp only [gather, searchOf_eq h]
    exact (hreadings.flatMap_right Reading.errors).append_right _

end

/-! ## The statement -/

/-- A selection compiles by its values in their order, and by what is asked for under each key. -/
theorem clauses_congr {s s' : Selection} (hvalues : s.values = s'.values)
    (hquantifiers : ∀ key, s.quantifiers.get? key = s'.quantifiers.get? key)
    (hsearch : s.search = s'.search) : s.clauses listing = s'.clauses listing := by
  have hquantifier : ∀ key, s.quantifier key = s'.quantifier key := fun key => by
    rw [Selection.quantifier, Selection.quantifier, hquantifiers]
  simp only [Selection.clauses, Selection.blocks, Selection.clausesAt, Selection.searchClauses,
    hvalues, hquantifier, hsearch]

/-- Valid requests that also have their values in the same order come to the same query. -/
theorem pageQuery_eq_of_values {r r' : ListRequest} (h : r.SameUpToOrder r')
    (hvalues : r.selection.values = r'.selection.values) (hvalid : r.errors = [])
    (backend : Backend) : listing.pageQuery r backend = listing.pageQuery r' backend := by
  have hvalid' : r'.errors = [] := (List.nil_perm.1 (hvalid ▸ h.errors))
  have hselect : listing.select r = listing.select r' := by
    simp only [select, clauses_congr hvalues h.quantifiers h.search, h.sort, h.alternate,
      h.pagination]
  simp only [pageQuery, ListRequest.isValid, hvalid, hvalid', hselect, h.alternate]

/-- The values of a request come from the filters' own parameters, in the order of these. -/
theorem toList_values_ofPairs {pairs : List (String × String)} {request : ListRequest}
    (h : listing.readRequest lookups (.ofPairs pairs) = .ok request) :
    request.selection.values.toList
      = ((keysOf pairs).filter listing.filters.contains).filterMap fun key =>
        (listing.reading lookups (key, .ofTexts (textsOf pairs key))).value? := by
  obtain ⟨-, rfl⟩ := readRequest_eq_ok_iff.1 h
  rw [toList_values, QueryParams.toList_ofPairs, List.map_map, List.filterMap_map,
    List.filterMap_filter]
  apply List.filterMap_congr
  intro key _
  split
  · rfl
  · -- what is no filter's parameter gives no value
    rename_i hfilter
    rw [Option.eq_none_iff_forall_ne_some]
    intro entry hentry
    obtain ⟨-, -, filter, hget, -⟩ := value?_reading hentry
    rw [OrderedMap.contains, hget] at hfilter
    exact hfilter rfl

end Listing

/-- Pairs in another order are read with the same outcome: if one request fails so does the other, and
otherwise they have the same value, the same quantifier and the same search, page and sorting, and the
errors of the one are those of the other in another order. If moreover the filters first come up in
the same order and there are no errors, both come to the same statement with the same values on every
backend, wherever all other parameters stand. -/
theorem order_matters_for_filters_only (listing : Listing) (lookups : LookupSet)
    {pairs pairs' : List (String × String)} (h : Reordered pairs pairs') :
    match listing.readRequest lookups (.ofPairs pairs),
      listing.readRequest lookups (.ofPairs pairs') with
    | .error _, .error _ => True
    | .ok r, .ok r' =>
      r.SameUpToOrder r'
        ∧ ((keysOf pairs).filter listing.filters.contains
            = (keysOf pairs').filter listing.filters.contains →
          r.errors = [] → ∀ backend, listing.pageQuery r backend = listing.pageQuery r' backend)
    | _, _ => False := by
  have hboth := Listing.exists_readRequest_iff listing lookups h
  -- both requests are read or neither is
  cases hread : listing.readRequest lookups (.ofPairs pairs) with
  | error e =>
    cases hread' : listing.readRequest lookups (.ofPairs pairs') with
    | error e' => trivial
    | ok r' =>
      obtain ⟨r, hr⟩ := hboth.2 ⟨r', hread'⟩
      rw [hread] at hr
      cases hr
  | ok r =>
    cases hread' : listing.readRequest lookups (.ofPairs pairs') with
    | error e' =>
      obtain ⟨r', hr'⟩ := hboth.1 ⟨r, hread⟩
      rw [hread'] at hr'
      cases hr'
    | ok r' =>
      have hsame := Listing.sameUpToOrder_of_reordered h hread hread'
      refine ⟨hsame, fun hkeys hvalid backend => ?_⟩
      refine Listing.pageQuery_eq_of_values hsame (OrderedMap.ext ?_) hvalid backend
      rw [Listing.toList_values_ofPairs hread, Listing.toList_values_ofPairs hread', hkeys]
      simp only [h.textsOf_eq]

namespace Races

/-- Elves of both of two editions, with the quantifier and the limit before the filters. -/
def quantifierFirst : List (String × String) :=
  [ ("edition_id_logic", "and"), ("limit", "5"), ("edition_id", "4"), ("race_name", "elf"),
    ("mcfilter", "wood"), ("edition_id", "5"), ("mclist", "race_name") ]

def quantifierLast : List (String × String) :=
  [ ("edition_id", "4"), ("mclist", "race_name"), ("edition_id", "5"), ("race_name", "elf"),
    ("mcfilter", "wood"), ("limit", "5"), ("edition_id_logic", "and") ]

/-- What the two requests read as. -/
def quantifierReadings : Option (List ParamError × Quantifier) :=
  declaration.build.toOption.bind fun listing =>
    (listing.readRequest ⟨[]⟩ (.ofPairs quantifierFirst)).toOption.map fun request =>
      (request.errors, request.selection.quantifier "edition_id")

end Races

/-- The companion of a filter may come before the filter or after it. -/
theorem order_matters_for_filters_only_companion :
    ∃ listing r r', Races.declaration.build = .ok listing
      ∧ listing.readRequest ⟨[]⟩ (.ofPairs Races.quantifierFirst) = .ok r
      ∧ listing.readRequest ⟨[]⟩ (.ofPairs Races.quantifierLast) = .ok r'
      ∧ r.errors = [] ∧ r.selection.quantifier "edition_id" = .all
      ∧ r.SameUpToOrder r'
      ∧ ∀ backend, listing.pageQuery r backend = listing.pageQuery r' backend := by
  have hreadings : Races.quantifierReadings = some ([], .all) := by decide +kernel
  obtain ⟨listing, r, hbuild, hread, hparts⟩ := exists_of_bind_map_toOption hreadings
  obtain ⟨hvalid, hquantifier⟩ := Prod.mk.inj hparts
  have hreordered : Reordered Races.quantifierFirst Races.quantifierLast := by decide +kernel
  have hkeys : (Races.declaration.build.toOption.map fun listing =>
      decide ((keysOf Races.quantifierFirst).filter listing.filters.contains
        = (keysOf Races.quantifierLast).filter listing.filters.contains)) = some true := by
    decide +kernel
  have hkeys := eq_of_map_toOption hbuild hkeys
  have horder := order_matters_for_filters_only listing ⟨[]⟩ hreordered
  rw [hread] at horder
  cases hread' : listing.readRequest ⟨[]⟩ (.ofPairs Races.quantifierLast) with
  | error e' =>
    rw [hread'] at horder
    exact horder.elim
  | ok r' =>
    rw [hread'] at horder
    exact ⟨listing, r, r', hbuild, hread, hread', hvalid, hquantifier, horder.1,
      horder.2 (of_decide_eq_true hkeys) hvalid⟩

end Compendium
