import Compendium.Proofs.Request.Mistakes

/-!
# Compendium — requests are well formed

Whatever a request was read from, it can be compiled without looking at its parameters again. Its
page, limit and sort key can be used as they are, every value fits the filter that it is for, and a
filter whose parameter was blank or rejected has no value at all. This holds of requests with errors
as well, and in whatever state the lookups are, as long as the request could be read.

* `ListRequest.WellFormed` lists what holds of a request.
* `readRequest_wellFormed` says that it holds of every request of an accepted listing.
-/

namespace Compendium

/-- What a list can rely on in a request that was read from the pairs. -/
structure ListRequest.WellFormed (r : ListRequest) (listing : Listing)
    (pairs : List (String × String)) : Prop where
  page : 1 ≤ r.pagination.page
  limit : 1 ≤ r.pagination.limit
  sortKey : r.sort.key ∈ listing.sortKeys.keys
  /-- No filter has two values. -/
  distinct : r.selection.values.keys.Nodup
  /-- The filters stand in the order in which their keys first appear. -/
  inOrder : r.selection.values.keys.Sublist (keysOf pairs)
  values : ∀ key value, r.selection.values.get? key = some value →
    ∃ filter, listing.filters.get? key = some filter ∧ filter.Fits value
  quantifiers : ∀ key q, r.selection.quantifiers.get? key = some q →
    ∃ filter, listing.filters.get? key = some filter ∧ filter.takesLogic
  search : ∀ search, r.selection.search = some search →
    search.keys ≠ [] ∧ search.keys.Nodup ∧ ∀ key ∈ search.keys, listing.Searchable key
  alternate : r.alternate = true ↔ ∃ key ∈ r.selection.values.keys,
    ∃ filter, listing.filters.get? key = some filter ∧ filter.switchesBase

namespace Listing

variable {listing : Listing} {lookups : LookupSet} {pairs : List (String × String)}
  {request : ListRequest}

/-- The sort key is one that the listing has, its default included. -/
theorem sortKey_mem_of_readRequest (haccepted : listing.Accepted)
    (h : listing.readRequest lookups (.ofPairs pairs) = .ok request) :
    request.sort.key ∈ listing.sortKeys.keys := by
  obtain ⟨-, rfl⟩ := readRequest_eq_ok_iff.1 h
  exact key_sortChoice_mem haccepted.defaultSort_mem _ _

/-- The values stand in the order of the keys in the pairs. -/
theorem keys_values_sublist_keysOf
    (h : listing.readRequest lookups (.ofPairs pairs) = .ok request) :
    request.selection.values.keys.Sublist (keysOf pairs) := by
  rw [← QueryParams.keys_ofPairs]
  exact keys_values_readRequest_sublist h

/-- The keys of a search can be searched. -/
theorem searchable_of_readRequest
    (h : listing.readRequest lookups (.ofPairs pairs) = .ok request) {search : ColumnSearch}
    (hsearch : request.selection.search = some search) :
    search.keys ≠ [] ∧ search.keys.Nodup ∧ ∀ key ∈ search.keys, listing.Searchable key := by
  obtain ⟨hne, hnodup, hsearchable⟩ := search_of_readRequest h hsearch
  exact ⟨hne, hnodup, fun key hkey => isSearchable_iff.1 (hsearchable key hkey)⟩

/-- What has a value is what the request has a filter for. -/
theorem alternate_iff_exists_key
    (h : listing.readRequest lookups (.ofPairs pairs) = .ok request) :
    request.alternate = true ↔ ∃ key ∈ request.selection.values.keys,
      ∃ filter, listing.filters.get? key = some filter ∧ filter.switchesBase := by
  rw [alternate_iff h]
  constructor
  · rintro ⟨key, value, filter, hvalue, hfilter, hswitches⟩
    refine ⟨key, ?_, filter, hfilter, hswitches⟩
    rw [← OrderedMap.get?_isSome_iff, hvalue]
    rfl
  · rintro ⟨key, hkey, filter, hfilter, hswitches⟩
    -- a key that the request has is never without its value
    rw [← OrderedMap.get?_isSome_iff] at hkey
    obtain ⟨value, hvalue⟩ := Option.isSome_iff_exists.1 hkey
    exact ⟨key, value, filter, hvalue, hfilter, hswitches⟩

end Listing

/-- Every request that an accepted listing reads is well formed, with mistakes in it or without, and
whether its lookups are ready, loading or uninitialized. -/
theorem readRequest_wellFormed {listing : Listing} (haccepted : listing.Accepted)
    {lookups : LookupSet} {pairs : List (String × String)} {request : ListRequest}
    (h : listing.readRequest lookups (.ofPairs pairs) = .ok request) :
    request.WellFormed listing pairs := by
  obtain ⟨hpage, hlimit⟩ :=
    Listing.one_le_pagination_of_readRequest haccepted.one_le_defaultLimit h
  exact
    { page := hpage
      limit := hlimit
      sortKey := Listing.sortKey_mem_of_readRequest haccepted h
      distinct := request.selection.values.nodup_keys
      inOrder := Listing.keys_values_sublist_keysOf h
      values := fun _ _ => Listing.fits_of_get?_values h
      quantifiers := fun _ _ => Listing.takesLogic_of_get?_quantifiers h
      search := fun _ => Listing.searchable_of_readRequest h
      alternate := Listing.alternate_iff_exists_key h }

/-- Parameters that are right, wrong, blank and repeated, before any lookup is loaded. -/
def Races.muddled : List (String × String) :=
  [ ("edition_id", "5"), ("race_speed", "fast"), ("edition_id_logic", "AND"),
    ("favored_class_id", " "), ("race_name", " elf"), ("edition_id", " x"), ("edition_id", "05"),
    ("mclist", "race_name,size_id,race_name"), ("mcfilter", "wood"), ("sort", "tail"),
    ("page", "0.5"), ("colour", "red") ]

/-- What the request holds, in order. -/
def Races.muddledReading : Option (List (String × FilterValue) × Option ColumnSearch × SortChoice
    × Pagination × List ParamError) :=
  declaration.build.toOption.bind fun listing =>
    (listing.readRequest .reference (.ofPairs muddled)).toOption.map fun request =>
      (request.selection.values.toList, request.selection.search, request.sort, request.pagination,
        request.errors)

/-- What is wrong or blank is left out, what is asked for twice is kept once, and a sort key and a
page that there are none of fall back to the defaults. -/
theorem readRequest_wellFormed_muddled :
    ∃ listing request, Races.declaration.build = .ok listing
      ∧ listing.readRequest .reference (.ofPairs Races.muddled) = .ok request
      ∧ request.selection.values.toList
        = [("edition_id", .list [.int 5]), ("race_name", .single (.text "% elf%"))]
      ∧ request.selection.search = some ⟨["race_name", "size_id"], "%wood%"⟩
      ∧ request.sort = ⟨"race_name", .ascending⟩ ∧ request.pagination = ⟨1, 20⟩
      ∧ request.errors = [.invalidValue "race_speed" "fast", .unknownParameter "colour"]
      ∧ request.WellFormed listing Races.muddled := by
  have hreading : Races.muddledReading = some
      ([("edition_id", .list [.int 5]), ("race_name", .single (.text "% elf%"))],
        some ⟨["race_name", "size_id"], "%wood%"⟩, ⟨"race_name", .ascending⟩, ⟨1, 20⟩,
        [.invalidValue "race_speed" "fast", .unknownParameter "colour"]) := by
    decide +kernel
  obtain ⟨listing, request, hbuild, hread, hparts⟩ := exists_of_bind_map_toOption hreading
  simp only [Prod.mk.injEq] at hparts
  obtain ⟨hvalues, hsearch, hsort, hpagination, herrors⟩ := hparts
  exact ⟨listing, request, hbuild, hread, hvalues, hsearch, hsort, hpagination, herrors,
    readRequest_wellFormed ⟨_, hbuild⟩ hread⟩

end Compendium
