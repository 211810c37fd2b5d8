import Compendium.Proofs.Listing.Accepted
import Compendium.Proofs.QueryParams.Splitting
import Compendium.Proofs.Request.Readings

/-!
# Compendium — repeated keys and commas

A list may be given by repeating its key or in one text with commas. The two come in the same pieces,
and pieces are all that a list is read from, so they are the same request: the same values, the same
errors with the same texts, or the same lookup that is not ready. The other parameters may stand
anywhere between the occurrences of the key.

* `SamePieces` is what the two ways of giving a list have in common, and `samePieces_of_commas` says
  that they have.
* `Listing.readRequest_eq_of_samePieces` says that a request depends on nothing else.
* `repeated_key_is_a_comma_list` puts them together.
-/

namespace Compendium

/-! ## The same pieces -/

/-- The pairs are grouped alike, but for one key whose texts come in the same pieces. -/
structure SamePieces (key : String) (pairs pairs' : List (String × String)) : Prop where
  keysOf_eq : keysOf pairs = keysOf pairs'
  textsOf_eq : ∀ key', key' ≠ key → textsOf pairs key' = textsOf pairs' key'
  splits : ∃ pieces, (ParamValue.ofTexts (textsOf pairs key)).Splits pieces
    ∧ (ParamValue.ofTexts (textsOf pairs' key)).Splits pieces

/-- Any other key has the same value. -/
theorem SamePieces.head?_eq {key : String} {pairs pairs' : List (String × String)}
    (h : SamePieces key pairs pairs') {key' : String} (hne : key' ≠ key) :
    (QueryParams.ofPairs pairs).head? key' = (QueryParams.ofPairs pairs').head? key' := by
  simp only [QueryParams.head?, QueryParams.get?_ofPairs, h.keysOf_eq, h.textsOf_eq key' hne]

section

variable {key : String} {before after : List (String × String)}

/-- A key that has come before brings no new key. -/
theorem keysOf_first (text text' : String) :
    keysOf (before ++ (key, text') :: after.filter (·.1 ≠ key))
      = keysOf (before ++ (key, text) :: after) := by
  have hlater : (after.filter (·.1 ≠ key)).map Prod.fst
      = (after.map Prod.fst).filter (· ≠ key) := by
    rw [List.filter_map]
    rfl
  have hpairs : ∀ text (rest : List (String × String)), (before ++ (key, text) :: rest).map Prod.fst
      = (before.map Prod.fst ++ [key]) ++ rest.map Prod.fst := by
    intro text rest
    simp
  rw [keysOf, keysOf, hpairs, hpairs, hlater]
  -- whatever is left out is the key, and that stands in front
  refine eraseDups_append_filter fun key' _ hkey' => ?_
  have heq : key' = key := by simpa using hkey'
  exact List.mem_append_right _ (List.mem_singleton.2 heq)

theorem textsOf_of_ne {key' : String} (hne : key' ≠ key) (text text' : String) :
    textsOf (before ++ (key, text') :: after.filter (·.1 ≠ key)) key'
      = textsOf (before ++ (key, text) :: after) key' := by
  have hlater : (after.filter (·.1 ≠ key)).filter (·.1 == key') = after.filter (·.1 == key') := by
    rw [List.filter_filter]
    refine List.filter_congr fun pair _ => ?_
    by_cases hpair : pair.1 = key'
    · simp [hpair, hne]
    · simp [hpair]
  have hpair : ∀ (text : String) (rest : List (String × String)),
      ((key, text) :: rest).filter (·.1 == key') = rest.filter (·.1 == key') := by
    intro text rest
    exact List.filter_cons_of_neg (by simp [hne.symm])
  -- neither what is left out nor the first pair comes with the other key
  rw [textsOf, textsOf, List.filter_append, List.filter_append, hpair, hpair, hlater]

variable (hfirst : key ∉ before.map Prod.fst)

include hfirst

/-- Where the key first appears its texts start. -/
theorem textsOf_first (text : String) (rest : List (String × String)) :
    textsOf (before ++ (key, text) :: rest) key = text :: textsOf rest key := by
  have hbefore : before.filter (·.1 == key) = [] := by
    rw [List.filter_eq_nil_iff]
    intro pair hpair heq
    exact hfirst (List.mem_map.2 ⟨pair, hpair, beq_iff_eq.1 heq⟩)
  simp [textsOf, hbefore]

/-- Where a key first appears, its texts can be given in one. -/
theorem samePieces_of_commas {text : String}
    (hcommas : ∀ t ∈ text :: textsOf after key, ',' ∉ t.toList) :
    SamePieces key
      (before ++ (key, ",".intercalate (text :: textsOf after key)) :: after.filter (·.1 ≠ key))
      (before ++ (key, text) :: after) := by
  have hafter : textsOf (after.filter (·.1 ≠ key)) key = [] := by
    simp [textsOf, List.filter_filter]
  -- on the one side a single text of pieces, on the other the pieces themselves
  refine ⟨keysOf_first _ _, fun key' hne => textsOf_of_ne hne _ _, text :: textsOf after key, ?_, ?_⟩
  · rw [textsOf_first hfirst, hafter]
    exact ParamValue.splits_once_intercalate (List.cons_ne_nil _ _) hcommas
  · rw [textsOf_first hfirst]
    exact ParamValue.splits_ofTexts (List.cons_ne_nil _ _) hcommas

end

/-! ## The same request -/

variable {lookups : LookupSet} {key : String} {param param' : ParamValue} {pieces : List String}

/-- A list is read from its pieces. -/
theorem Filter.interpretMany_eq_of_splits (f : Filter) (h : param.Splits pieces)
    (h' : param'.Splits pieces) :
    f.interpretMany lookups key param = f.interpretMany lookups key param' := by
  rw [interpretMany, interpretMany, h.items, h'.items, h.quoted, h'.quoted]

namespace Listing

/-- The key's parameter is a list: of a filter's values, or of the keys to search in. -/
def IsListKey (listing : Listing) (key : String) : Prop :=
  key = "mclist" ∨ ∃ filter, listing.filters.get? key = some filter ∧ filter.takesMany = true

variable {listing : Listing} {pairs pairs' : List (String × String)}

/-- The key's own parameter is read from its pieces. -/
theorem readParam_eq_of_splits (hkey : listing.IsListKey key) (h : param.Splits pieces)
    (h' : param'.Splits pieces) :
    listing.readParam lookups key param = listing.readParam lookups key param' := by
  rcases hkey with rfl | ⟨filter, hfilter, hmany⟩
  · -- the keys to search in are read with the whole request
    have hreserved : reservedParams.contains "mclist" = true := by decide
    rw [readParam, readParam, if_pos hreserved, if_pos hreserved]
  · have hinterpret : filter.interpret lookups key param = filter.interpret lookups key param' := by
      rw [Filter.interpret, Filter.interpret, if_pos hmany, if_pos hmany,
        filter.interpretMany_eq_of_splits h h']
    simp only [readParam, hfilter, hinterpret]

/-- Of the parameters that every list takes only the list of keys to search in is a list. -/
theorem ne_key_of_mem_reservedParams (haccepted : listing.Accepted) (hkey : listing.IsListKey key)
    {reserved : String} (hreserved : reserved ∈ reservedParams) (hne : reserved ≠ "mclist") :
    reserved ≠ key := by
  rintro rfl
  rcases hkey with hkey | ⟨filter, hfilter, -⟩
  · exact hne hkey
  · exact haccepted.notMem_reservedParams hfilter hreserved

theorem searchOf_eq_of_samePieces (haccepted : listing.Accepted) (hkey : listing.IsListKey key)
    (h : SamePieces key pairs pairs') :
    listing.searchOf (.ofPairs pairs) = listing.searchOf (.ofPairs pairs') := by
  have htext : (QueryParams.ofPairs pairs).head? "mcfilter"
      = (QueryParams.ofPairs pairs').head? "mcfilter" :=
    h.head?_eq (listing.ne_key_of_mem_reservedParams haccepted hkey (by decide) (by decide))
  obtain ⟨pieces, hsplits, hsplits'⟩ := h.splits
  rw [searchOf, searchOf, QueryParams.get?_ofPairs, QueryParams.get?_ofPairs, h.keysOf_eq, htext]
  -- the list of columns is there on both sides or on neither
  by_cases hmem : "mclist" ∈ keysOf pairs'
  · rw [if_pos hmem, if_pos hmem]
    -- the keys to search in may be the list that is given in another way
    by_cases hlist : "mclist" = key
    · subst hlist
      simp only [hsplits.items, hsplits'.items]
    · rw [h.textsOf_eq _ hlist]
  · rw [if_neg hmem, if_neg hmem]

/-- A request says no more about a list than its pieces. -/
theorem readRequest_eq_of_samePieces (haccepted : listing.Accepted) (hkey : listing.IsListKey key)
    (h : SamePieces key pairs pairs') :
    listing.readRequest lookups (.ofPairs pairs) = listing.readRequest lookups (.ofPairs pairs') := by
  obtain ⟨pieces, hsplits, hsplits'⟩ := h.splits
  have hparams : ∀ key', listing.readParam lookups key' (.ofTexts (textsOf pairs key'))
      = listing.readParam lookups key' (.ofTexts (textsOf pairs' key')) := by
    intro key'
    -- the key is read from its pieces, every other one from the texts it had
    by_cases heq : key' = key
    · rw [heq]
      exact readParam_eq_of_splits hkey hsplits hsplits'
    · rw [h.textsOf_eq key' heq]
  refine readRequest_congr h.keysOf_eq hparams (searchOf_eq_of_samePieces haccepted hkey h) ?_
  intro key' hkey'
  have hreserved : ∀ key ∈ ["page", "limit", "sort", "order"],
      key ∈ reservedParams ∧ key ≠ "mclist" := by
    decide
  exact h.head?_eq (listing.ne_key_of_mem_reservedParams haccepted hkey (hreserved key' hkey').1
    (hreserved key' hkey').2)

end Listing

/-- A list that is given by repeating its key is the same request as one text with commas where the
key first appears: what is read, each mistake with its text, and what reading fails with. -/
theorem repeated_key_is_a_comma_list {listing : Listing} (haccepted : listing.Accepted)
    (lookups : LookupSet) {key : String} (hkey : listing.IsListKey key)
    {before after : List (String × String)} {text : String}
    (hfirst : key ∉ before.map Prod.fst)
    (hcommas : ∀ t ∈ text :: textsOf after key, ',' ∉ t.toList) :
    listing.readRequest lookups (.ofPairs
        (before ++ (key, ",".intercalate (text :: textsOf after key))
          :: after.filter (·.1 ≠ key)))
      = listing.readRequest lookups (.ofPairs (before ++ (key, text) :: after)) :=
  Listing.readRequest_eq_of_samePieces haccepted hkey (samePieces_of_commas hfirst hcommas)

namespace Races

/-- Races take several editions. -/
theorem isListKey_of_build {listing : Listing} (h : declaration.build = .ok listing) :
    ∀ key ∈ ["edition_id", "mclist"], listing.IsListKey key := by
  have hmany : (declaration.build.toOption.map fun listing =>
      (listing.filters.get? "edition_id").map Filter.takesMany) = some (some true) := by
    decide +kernel
  have hfilter := eq_of_map_toOption h hmany
  intro key hkey
  simp only [List.mem_cons, List.not_mem_nil, or_false] at hkey
  rcases hkey with rfl | rfl
  · exact .inr (Option.map_eq_some_iff.1 hfilter)
  · exact .inl rfl

/-- Editions that are none and columns to search in, in turns. -/
def repeatedKeys : List (String × String) :=
  [ ("edition_id", "x"), ("mclist", "race_name"), ("edition_id", " "), ("race_speed", "fast"),
    ("mclist", "tail"), ("edition_id", "y") ]

/-- The mistakes of the request. -/
def errorsOf (pairs : List (String × String)) : Option (List ParamError) :=
  declaration.build.toOption.bind fun listing =>
    (listing.readRequest ⟨[]⟩ (.ofPairs pairs)).toOption.map ListRequest.errors

end Races

/-- Either key may be given in one text, and the mistakes are the same. -/
theorem repeated_key_is_a_comma_list_races :
    ∃ listing request, Races.declaration.build = .ok listing
      ∧ listing.readRequest ⟨[]⟩ (.ofPairs Races.repeatedKeys) = .ok request
      ∧ listing.readRequest ⟨[]⟩ (.ofPairs
          [ ("edition_id", "x, ,y"), ("mclist", "race_name"), ("race_speed", "fast"),
            ("mclist", "tail") ]) = .ok request
      ∧ listing.readRequest ⟨[]⟩ (.ofPairs
          [ ("edition_id", "x"), ("mclist", "race_name,tail"), ("edition_id", " "),
            ("race_speed", "fast"), ("edition_id", "y") ]) = .ok request
      ∧ request.errors = [.noValidValues "edition_id" "x, ,y", .invalidValue "race_speed" "fast",
          .invalidSearchColumns ["tail"]] := by
  have herrors : Races.errorsOf Races.repeatedKeys
      = some [.noValidValues "edition_id" "x, ,y", .invalidValue "race_speed" "fast",
          .invalidSearchColumns ["tail"]] := by
    decide +kernel
  obtain ⟨listing, request, hbuild, hread, herrors⟩ := exists_of_bind_map_toOption herrors
  have hkeys := Races.isListKey_of_build hbuild
  refine ⟨listing, request, hbuild, hread, ?_, ?_, herrors⟩
  · have hpairs : [ ("edition_id", "x, ,y"), ("mclist", "race_name"), ("race_speed", "fast"),
          ("mclist", "tail") ]
        = [] ++ ("edition_id", ",".intercalate
            ("x" :: textsOf (Races.repeatedKeys.drop 1) "edition_id"))
          :: (Races.repeatedKeys.drop 1).filter (·.1 ≠ "edition_id") := by
      decide +kernel
    rw [← hread, hpairs]
    exact repeated_key_is_a_comma_list ⟨_, hbuild⟩ ⟨[]⟩ (hkeys "edition_id" (by decide))
      (by decide) (by decide)
  · have hpairs : [ ("edition_id", "x"), ("mclist", "race_name,tail"), ("edition_id", " "),
          ("race_speed", "fast"), ("edition_id", "y") ]
        = Races.repeatedKeys.take 1 ++ ("mclist", ",".intercalate
            ("race_name" :: textsOf (Races.repeatedKeys.drop 2) "mclist"))
          :: (Races.repeatedKeys.drop 2).filter (·.1 ≠ "mclist") := by
      decide +kernel
    rw [← hread, hpairs]
    exact repeated_key_is_a_comma_list ⟨_, hbuild⟩ ⟨[]⟩ (hkeys "mclist" (by decide))
      (by decide) (by decide)

end Compendium
