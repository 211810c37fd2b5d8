import Compendium.Proofs.QueryParams.Grouping
import Compendium.Proofs.Request.Values
import Compendium.Request.ListRequest

/-!
# Compendium — from readings to the request

A request is what the readings of its parameters come to together. Each parameter is read by itself
and its key comes once, so what a request holds under a key goes back to one parameter.

* `Listing.readRequest_eq_ok_iff` takes the reading of a request apart, parameter by parameter.
* `Listing.get?_values_iff` says where the value of a filter comes from, and `Listing.alternate_iff`
  which values make the alternate table drive the query.
* `Listing.takesLogic_of_quantifier_eq_all` says that only a filter that takes logic is asked for
  all of its values.
* `Listing.readRequest_congr` says on how little of the pairs a request depends.
-/

namespace Compendium

namespace Listing

variable {listing : Listing} {lookups : LookupSet}

/-! ## One parameter -/

/-- Only a filter's own parameter is read as a value, by that filter. -/
theorem readParam_value_iff {key owner : String} {param : ParamValue} {value : FilterValue}
    {switches : Bool} :
    listing.readParam lookups key param = .ok (.value owner value switches) ↔
      owner = key ∧ key ∉ reservedParams ∧ ∃ filter, listing.filters.get? key = some filter
        ∧ switches = filter.switchesBase
        ∧ filter.interpret lookups key param = .ok (.value value) := by
  unfold readParam
  -- a reserved parameter says nothing, one without a filter is no value
  by_cases hreserved : key ∈ reservedParams
  · simp [hreserved]
  · rw [if_neg (by simpa using hreserved)]
    rcases hfilter : listing.filters.get? key with _ | filter
    · -- what is no filter's parameter is a quantifier or a mistake
      simp only [readCompanion]
      rcases (companionOf? key).bind fun owner => (listing.filters.get? owner).map (owner, ·)
        with _ | ⟨owner', filter'⟩
      · simp
      · by_cases hlogic : filter'.takesLogic <;> simp [hlogic]
    · rcases hinterpret : filter.interpret lookups key param with e | (v | _ | errors)
      · simp [Except.map, hinterpret]
      · simp only [hinterpret, Except.map]
        constructor
        · intro h
          cases h
          exact ⟨rfl, hreserved, filter, rfl, rfl, hinterpret⟩
        · rintro ⟨rfl, -, filter', hfilter', rfl, h⟩
          cases hfilter'
          rw [hinterpret] at h
          cases h
          rfl
      · simp [Except.map, hinterpret]
      · simp [Except.map, hinterpret]

/-- A parameter is read as a quantifier only if it is the companion of a filter with one. -/
theorem takesLogic_of_readParam {key owner : String} {param : ParamValue} {q : Quantifier}
    (h : listing.readParam lookups key param = .ok (.quantifier owner q)) :
    ∃ filter, listing.filters.get? owner = some filter ∧ filter.takesLogic
      ∧ companionOf? key = some owner ∧ q = .ofText param.head := by
  unfold readParam at h
  split at h
  · cases h
  · split at h
    · unfold readCompanion at h
      split at h
      · rename_i owner' filter' hcompanion
        obtain ⟨owner'', howner, hmap⟩ := Option.bind_eq_some_iff.1 hcompanion
        obtain ⟨filter'', hfilter, hpair⟩ := Option.map_eq_some_iff.1 hmap
        cases hpair
        split at h
        · rename_i hlogic
          cases h
          exact ⟨filter', hfilter, hlogic, howner, rfl⟩
        · cases h
      · cases h
    · -- a filter's own parameter is read as a value, as nothing or as a mistake
      rename_i filter hfilter
      rcases hinterpret : filter.interpret lookups key param with e | (v | _ | errors) <;>
        (rw [hinterpret] at h; cases h)

/-! ## All parameters -/

/-- What a parameter is read as, where reading it does not fail. -/
def reading (listing : Listing) (lookups : LookupSet) (e : String × ParamValue) : Reading :=
  (listing.readParam lookups e.1 e.2).toOption.getD .nothing

/-- A request is read if each of its parameters is, and it gathers what they were read as. -/
theorem readRequest_eq_ok_iff {params : QueryParams} {request : ListRequest} :
    listing.readRequest lookups params = .ok request ↔
      (∀ e ∈ params.toList, ∃ r, listing.readParam lookups e.1 e.2 = .ok r)
        ∧ request = listing.gather params (params.toList.map (listing.reading lookups)) := by
  unfold readRequest
  rw [bind_eq_ok_iff]
  constructor
  · rintro ⟨readings, hreadings, hgather⟩
    cases hgather
    obtain ⟨hall, rfl⟩ := (mapM_eq_ok_iff .nothing).1 hreadings
    exact ⟨hall, rfl⟩
  · rintro ⟨hall, rfl⟩
    exact ⟨_, (mapM_eq_ok_iff .nothing).2 ⟨hall, rfl⟩, rfl⟩

/-- Of what is not read parameter by parameter a request has the search, the page and the sorting. -/
theorem gather_congr {params params' : QueryParams}
    (hsearch : listing.searchOf params = listing.searchOf params')
    (hhead : ∀ key ∈ ["page", "limit", "sort", "order"], params.head? key = params'.head? key)
    (readings : List Reading) : listing.gather params readings = listing.gather params' readings := by
  simp only [gather, hsearch, hhead "page" (by simp), hhead "limit" (by simp),
    hhead "sort" (by simp), hhead "order" (by simp)]

/-- Pairs are the same request if their keys are the same in the same order, each with texts that
are read alike, and if the search, the page and the sorting are the same. -/
theorem readRequest_congr {pairs pairs' : List (String × String)}
    (hkeys : keysOf pairs = keysOf pairs')
    (hparams : ∀ key, listing.readParam lookups key (.ofTexts (textsOf pairs key))
      = listing.readParam lookups key (.ofTexts (textsOf pairs' key)))
    (hsearch : listing.searchOf (.ofPairs pairs) = listing.searchOf (.ofPairs pairs'))
    (hhead : ∀ key ∈ ["page", "limit", "sort", "order"],
      (QueryParams.ofPairs pairs).head? key = (QueryParams.ofPairs pairs').head? key) :
    listing.readRequest lookups (.ofPairs pairs) = listing.readRequest lookups (.ofPairs pairs') := by
  simp only [readRequest, QueryParams.toList_ofPairs, List.mapM_map, Function.comp_def, hparams,
    hkeys, gather_congr hsearch hhead]

/-- What was read at all was read without a failure. -/
theorem reading_eq_iff {e : String × ParamValue} {r : Reading} (hr : r ≠ .nothing) :
    listing.reading lookups e = r ↔ listing.readParam lookups e.1 e.2 = .ok r := by
  unfold reading
  rcases listing.readParam lookups e.1 e.2 with err | r'
  · simp [Except.toOption, Ne.symm hr]
  · simp [Except.toOption]

/-! ### Values -/

/-- A parameter is read as a value under its own key or not as a value. -/
theorem value?_reading {e : String × ParamValue} {entry : String × FilterValue}
    (h : (listing.reading lookups e).value? = some entry) :
    entry.1 = e.1 ∧ e.1 ∉ reservedParams ∧ ∃ filter, listing.filters.get? e.1 = some filter
      ∧ filter.interpret lookups e.1 e.2 = .ok (.value entry.2) := by
  rcases hreading : listing.reading lookups e with ⟨k, v, switches⟩ | _ | _ | _
  · rw [hreading] at h
    cases h
    have hread := (reading_eq_iff (by simp)).1 hreading
    obtain ⟨howner, hreserved, filter, hfilter, -, hinterpret⟩ := readParam_value_iff.1 hread
    exact ⟨howner, hreserved, filter, hfilter, hinterpret⟩
  · rw [hreading] at h
    cases h
  · rw [hreading] at h
    cases h
  · rw [hreading] at h
    cases h

/-- A parameter that its filter accepts is read as the filter's value. -/
theorem reading_eq_value {key : String} {param : ParamValue} {filter : Filter} {value : FilterValue}
    (hreserved : key ∉ reservedParams) (hfilter : listing.filters.get? key = some filter)
    (hinterpret : filter.interpret lookups key param = .ok (.value value)) :
    listing.reading lookups (key, param) = .value key value filter.switchesBase := by
  rw [reading_eq_iff (by simp), readParam_value_iff]
  exact ⟨rfl, hreserved, filter, hfilter, rfl, hinterpret⟩

/-- The values keep the order of their parameters. -/
theorem keys_values_sublist (entries : List (String × ParamValue)) :
    (((entries.map (listing.reading lookups)).filterMap Reading.value?).map Prod.fst).Sublist
      (entries.map Prod.fst) := by
  induction entries with
  | nil => exact List.Sublist.slnil
  | cons e es ih =>
    rw [List.map_cons, List.filterMap_cons]
    -- a reading keeps its parameter's key or gives no value
    rcases hvalue : (listing.reading lookups e).value? with _ | entry
    · exact ih.cons e.1
    · have hkey : entry.1 = e.1 := (value?_reading hvalue).1
      simp only [List.map_cons, hkey]
      exact ih.cons_cons e.1

/-- The values of a request stand in the order of its parameters. -/
theorem toList_values (params : QueryParams) :
    (listing.gather params (params.toList.map (listing.reading lookups))).selection.values.toList
      = (params.toList.map (listing.reading lookups)).filterMap Reading.value? :=
  OrderedMap.toList_ofList ((keys_values_sublist params.toList).nodup params.nodup_keys)

/-- A request has a value for a filter if the filter accepts its parameter. -/
theorem get?_values_iff {params : QueryParams} {request : ListRequest}
    (h : listing.readRequest lookups params = .ok request) {key : String} {value : FilterValue} :
    request.selection.values.get? key = some value ↔
      key ∉ reservedParams ∧ ∃ param filter, params.get? key = some param
        ∧ listing.filters.get? key = some filter
        ∧ filter.interpret lookups key param = .ok (.value value) := by
  obtain ⟨-, rfl⟩ := readRequest_eq_ok_iff.1 h
  rw [OrderedMap.get?_eq_some_iff, toList_values, List.mem_filterMap]
  constructor
  · rintro ⟨r, hr, hvalue⟩
    obtain ⟨⟨key', param⟩, he, rfl⟩ := List.mem_map.1 hr
    obtain ⟨hkey, hreserved, filter, hfilter, hinterpret⟩ := value?_reading hvalue
    subst hkey
    exact ⟨hreserved, param, filter, (OrderedMap.get?_eq_some_iff _ _ _).2 he, hfilter, hinterpret⟩
  · -- conversely, the one parameter under the key is read as this value
    rintro ⟨hreserved, param, filter, hparam, hfilter, hinterpret⟩
    have hread := reading_eq_value hreserved hfilter hinterpret
    refine ⟨.value key value filter.switchesBase, ?_, rfl⟩
    exact List.mem_map.2 ⟨(key, param), (OrderedMap.get?_eq_some_iff _ _ _).1 hparam, hread⟩

/-- The keys of a request's values are parameters, in the order of these. -/
theorem keys_values_readRequest_sublist {params : QueryParams} {request : ListRequest}
    (h : listing.readRequest lookups params = .ok request) :
    request.selection.values.keys.Sublist params.keys := by
  obtain ⟨-, rfl⟩ := readRequest_eq_ok_iff.1 h
  rw [OrderedMap.keys, toList_values]
  exact keys_values_sublist params.toList

/-- Every value is one that its filter accepts. -/
theorem fits_of_get?_values {params : QueryParams} {request : ListRequest}
    (h : listing.readRequest lookups params = .ok request) {key : String} {value : FilterValue}
    (hvalue : request.selection.values.get? key = some value) :
    ∃ filter, listing.filters.get? key = some filter ∧ filter.Fits value := by
  obtain ⟨-, param, filter, -, hfilter, hinterpret⟩ := (get?_values_iff h).1 hvalue
  exact ⟨filter, hfilter, Filter.fits_of_interpret hinterpret⟩

/-- The alternate table drives the query if a filter that switches the base table has a value. -/
theorem alternate_iff {params : QueryParams} {request : ListRequest}
    (h : listing.readRequest lookups params = .ok request) :
    request.alternate = true ↔ ∃ key value filter, request.selection.values.get? key = some value
      ∧ listing.filters.get? key = some filter ∧ filter.switchesBase := by
  have halternate : request.alternate
      = (params.toList.map (listing.reading lookups)).any Reading.needsAlternate := by
    rw [(readRequest_eq_ok_iff.1 h).2]
    rfl
  rw [halternate, List.any_eq_true]
  constructor
  · rintro ⟨r, hr, hneeds⟩
    obtain ⟨⟨key, param⟩, he, hreading⟩ := List.mem_map.1 hr
    -- only a value can ask for the alternate table
    rcases r with ⟨owner, value, switches⟩ | _ | _ | _
    · have hread := (reading_eq_iff (by simp)).1 hreading
      obtain ⟨rfl, hreserved, filter, hfilter, rfl, hinterpret⟩ := readParam_value_iff.1 hread
      have hparam := (OrderedMap.get?_eq_some_iff _ _ _).2 he
      exact ⟨owner, value, filter,
        (get?_values_iff h).2 ⟨hreserved, param, filter, hparam, hfilter, hinterpret⟩, hfilter,
        (Bool.and_eq_true_iff.1 hneeds).1⟩
    · cases hneeds
    · cases hneeds
    · cases hneeds
  · rintro ⟨key, value, filter, hvalue, hfilter, hswitches⟩
    obtain ⟨hreserved, param, filter', hparam, hfilter', hinterpret⟩ := (get?_values_iff h).1 hvalue
    rw [hfilter] at hfilter'
    cases hfilter'
    have hempty : value.isEmpty = false := by
      rw [FilterValue.isEmpty, List.isEmpty_eq_false_iff]
      exact (Filter.fits_of_interpret hinterpret).toList.1
    have hread := reading_eq_value hreserved hfilter hinterpret
    refine ⟨_, List.mem_map.2 ⟨(key, param), ?_, hread⟩, ?_⟩
    · exact (OrderedMap.get?_eq_some_iff _ _ _).1 hparam
    · show (filter.switchesBase && !value.isEmpty) = true
      rw [hswitches, hempty]
      rfl

/-- One value of such a filter is enough. -/
theorem alternate_of_switchesBase {params : QueryParams} {request : ListRequest}
    (h : listing.readRequest lookups params = .ok request) {key : String} {filter : Filter}
    (hfilter : listing.filters.get? key = some filter) (hswitches : filter.switchesBase)
    {value : FilterValue} (hvalue : request.selection.values.get? key = some value) :
    request.alternate = true :=
  (alternate_iff h).2 ⟨key, value, filter, hvalue, hfilter, hswitches⟩

/-! ### Quantifiers -/

/-- A request has a quantifier only for a filter that takes logic. -/
theorem takesLogic_of_get?_quantifiers {params : QueryParams} {request : ListRequest}
    (h : listing.readRequest lookups params = .ok request) {key : String} {q : Quantifier}
    (hq : request.selection.quantifiers.get? key = some q) :
    ∃ filter, listing.filters.get? key = some filter ∧ filter.takesLogic := by
  obtain ⟨-, rfl⟩ := readRequest_eq_ok_iff.1 h
  have hmem := OrderedMap.mem_of_get?_ofList hq
  obtain ⟨r, hr, hquantifier⟩ := List.mem_filterMap.1 hmem
  obtain ⟨e, -, hreading⟩ := List.mem_map.1 hr
  rcases r with _ | ⟨owner, q'⟩ | _ | _
  · cases hquantifier
  · cases hquantifier
    have hread := (reading_eq_iff (by simp)).1 hreading
    obtain ⟨filter, hfilter, hlogic, -, -⟩ := takesLogic_of_readParam hread
    exact ⟨filter, hfilter, hlogic⟩
  · cases hquantifier
  · cases hquantifier

/-- Only a filter that takes logic is asked for all of its values. -/
theorem takesLogic_of_quantifier_eq_all {params : QueryParams} {request : ListRequest}
    (h : listing.readRequest lookups params = .ok request) {key : String}
    (hall : request.selection.quantifier key = .all) :
    ∃ filter, listing.filters.get? key = some filter ∧ filter.takesLogic := by
  unfold Selection.quantifier at hall
  rcases hget : request.selection.quantifiers.get? key with _ | q
  · -- a quantifier that was not set is not `all`
    rw [hget] at hall
    cases hall
  · exact takesLogic_of_get?_quantifiers h hget

/-! ### The search -/

/-- A search is read only with keys that can be searched, each of them once. -/
theorem readSearch_eq_ok {keys : List String} {text : String} {search : ColumnSearch}
    (h : listing.readSearch keys text = .ok (some search)) :
    search.keys ≠ [] ∧ search.keys.Nodup ∧ ∀ key ∈ search.keys, listing.isSearchable key := by
  unfold readSearch at h
  split at h
  · rename_i hunknown
    split at h
    · cases h
    · rename_i hsome
      cases h
      obtain ⟨hkeys, -⟩ := not_or.1 (fun hor => hsome (Bool.or_eq_true_iff.2 hor))
      have hsearchable : ∀ key ∈ keys, listing.isSearchable key := by
        simpa [List.filter_eq_nil_iff] using hunknown
      obtain ⟨key, hkey⟩ := List.exists_mem_of_ne_nil keys (by simpa using hkeys)
      refine ⟨List.ne_nil_of_mem (List.mem_eraseDups.2 hkey), nodup_eraseDups keys, ?_⟩
      intro key hkey
      exact hsearchable key (List.mem_eraseDups.1 hkey)
  · cases h

/-- The search of a request is one that was read. -/
theorem search_of_readRequest {params : QueryParams} {request : ListRequest}
    (h : listing.readRequest lookups params = .ok request) {search : ColumnSearch}
    (hsearch : request.selection.search = some search) :
    search.keys ≠ [] ∧ search.keys.Nodup ∧ ∀ key ∈ search.keys, listing.isSearchable key := by
  obtain ⟨-, rfl⟩ := readRequest_eq_ok_iff.1 h
  simp only [gather, searchOf] at hsearch
  split at hsearch
  · rename_i hread
    subst hsearch
    split at hread
    · cases hread
    · exact readSearch_eq_ok hread
  · cases hsearch

/-! ### Sorting and paging -/

/-- What a text that names no sort key falls back to is a sort key as well. -/
theorem key_sortChoice_mem (hdefault : listing.entity.defaultSort ∈ listing.sortKeys.keys)
    (key direction : Option String) :
    (listing.sortChoice key direction).key ∈ listing.sortKeys.keys := by
  cases htext : key.map Text.trim with
  | none =>
    simp only [sortChoice, htext]
    exact hdefault
  | some asked =>
    simp only [sortChoice, htext]
    split
    · rename_i hcontains
      exact (OrderedMap.get?_isSome_iff _ _).1 hcontains
    · exact hdefault

/-- A number that is read from a text is never 0. -/
theorem one_le_of_positive? {raw : String} {n : UInt64} (h : positive? raw = some n) : 1 ≤ n := by
  -- 0 is refused, both as a word and as the floor of a numeral
  unfold positive? at h
  simp only at h
  split at h
  · split at h
    · cases h
    · rename_i hzero
      cases h
      have hne : n.toNat ≠ 0 := fun hnat => hzero (UInt64.toNat_inj.1 hnat)
      rw [UInt64.le_iff_toNat_le]
      show 1 ≤ n.toNat
      omega
  · split at h
    · cases h
    · split at h
      · cases h
      · obtain ⟨floor, -, hfloor⟩ := Option.bind_eq_some_iff.1 h
        split at hfloor
        · cases hfloor
        · cases hfloor
          rw [UInt64.le_iff_toNat_le, toNat_clampUInt64]
          show 1 ≤ min floor 0xFFFFFFFFFFFFFFFF
          omega

/-- Pages are counted from 1, and no page is without items. -/
theorem one_le_pagination_of_readRequest {params : QueryParams} {request : ListRequest}
    (hdefault : 1 ≤ listing.defaultLimit)
    (h : listing.readRequest lookups params = .ok request) :
    1 ≤ request.pagination.page ∧ 1 ≤ request.pagination.limit := by
  obtain ⟨-, rfl⟩ := readRequest_eq_ok_iff.1 h
  -- a number that is read is at least 1, and so is the default
  have hgetD : ∀ (text : Option String) (default : UInt64), 1 ≤ default →
      1 ≤ (text.bind positive?).getD default := by
    intro text default hle
    rcases hnumber : text.bind positive? with _ | n
    · exact hle
    · obtain ⟨raw, -, hraw⟩ := Option.bind_eq_some_iff.1 hnumber
      exact one_le_of_positive? hraw
  exact ⟨hgetD _ _ (by decide), hgetD _ _ hdefault⟩

end Listing

end Compendium
