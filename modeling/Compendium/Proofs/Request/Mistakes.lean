import Mathlib.Data.List.Basic
import Compendium.Proofs.Listing.Accepted
import Compendium.Proofs.QueryParams.Grouping
import Compendium.Proofs.Request.Acceptance

/-!
# Compendium — every mistake is reported

A key offends if the listing does not declare it or if its filter does not accept what it comes with.
With its lookups answering, an accepted listing reads every request, and the request's errors are
those of its offending keys, in the order in which the keys first appear, then the error of the
search over several columns. A filter whose key offends is not applied.

* `Listing.readParam_of_offends` and `Listing.errors_reading_of_not_offends` deal with one key.
* `readRequest_reports_every_mistake` puts the keys together.
-/

namespace Compendium

namespace Listing

/-! ## Declared keys -/

/-- The filter that a key is the companion of, with that filter's own key. -/
def companionOwner? (listing : Listing) (key : String) : Option (String × Filter) :=
  (companionOf? key).bind fun owner => (listing.filters.get? owner).map (owner, ·)

/-- A request may use the key: it is reserved, a filter's, or the companion of a filter with one. -/
def Declares (listing : Listing) (key : String) : Prop :=
  key ∈ reservedParams ∨ (∃ filter, listing.filters.get? key = some filter)
    ∨ ∃ owner filter, key = owner ++ companionSuffix ∧ listing.filters.get? owner = some filter
      ∧ filter.takesLogic

/-- The key has no business in a request, or not with what it comes with. -/
def Offends (listing : Listing) (lookups : LookupSet) (key : String) (param : ParamValue) : Prop :=
  ¬listing.Declares key
    ∨ ∃ filter, listing.filters.get? key = some filter ∧ filter.accepts lookups param = false

/-- What is reported of a key that offends. -/
def complaintsOf (listing : Listing) (lookups : LookupSet) (key : String) (param : ParamValue) :
    List ParamError :=
  match listing.filters.get? key with
  | some filter => filter.complaints lookups key param
  | none =>
    match listing.companionOwner? key with
    | some (owner, _) => [.unsupportedLogic owner]
    | none => [.unknownParameter key]

variable {listing : Listing} {lookups : LookupSet} {key : String} {param : ParamValue}

/-- A companion's key is its owner's with the suffix. -/
theorem companionOwner?_eq_some_iff {owner : String} {filter : Filter} :
    listing.companionOwner? key = some (owner, filter) ↔
      key = owner ++ companionSuffix ∧ listing.filters.get? owner = some filter := by
  unfold companionOwner?
  rw [Option.bind_eq_some_iff]
  constructor
  · rintro ⟨owner', howner, hmap⟩
    obtain ⟨filter', hfilter, hpair⟩ := Option.map_eq_some_iff.1 hmap
    cases hpair
    exact ⟨companionOf?_eq_some_iff.1 howner, hfilter⟩
  · rintro ⟨hkey, hfilter⟩
    exact ⟨owner, companionOf?_eq_some_iff.2 hkey, by rw [hfilter]; rfl⟩

theorem declares_iff :
    listing.Declares key ↔ key ∈ reservedParams ∨ (listing.filters.get? key).isSome
      ∨ (listing.companionOwner? key).any (·.2.takesLogic) := by
  have howner : (∃ owner filter, key = owner ++ companionSuffix
        ∧ listing.filters.get? owner = some filter ∧ filter.takesLogic)
      ↔ (listing.companionOwner? key).any (·.2.takesLogic) := by
    rw [Option.any_eq_true]
    constructor
    · rintro ⟨owner, filter, hkey, hfilter, hlogic⟩
      exact ⟨(owner, filter), companionOwner?_eq_some_iff.2 ⟨hkey, hfilter⟩, hlogic⟩
    · rintro ⟨⟨owner, filter⟩, howner, hlogic⟩
      obtain ⟨hkey, hfilter⟩ := companionOwner?_eq_some_iff.1 howner
      exact ⟨owner, filter, hkey, hfilter, hlogic⟩
  rw [Declares, howner, Option.isSome_iff_exists]

instance : Decidable (listing.Declares key) := decidable_of_iff _ declares_iff.symm

theorem offends_iff :
    listing.Offends lookups key param ↔ ¬listing.Declares key
      ∨ (listing.filters.get? key).any fun filter => !filter.accepts lookups param := by
  rw [Offends, Option.any_eq_true]
  simp only [Bool.not_eq_true']

instance : Decidable (listing.Offends lookups key param) := decidable_of_iff _ offends_iff.symm

/-- A key does not offend if it is declared and accepted. -/
theorem not_offends_iff :
    ¬listing.Offends lookups key param ↔ listing.Declares key
      ∧ ∀ filter, listing.filters.get? key = some filter → filter.accepts lookups param := by
  rw [Offends, not_or, Decidable.not_not, not_exists]
  simp only [not_and, Bool.not_eq_false]

/-- An offending key is reported. -/
theorem complaintsOf_ne_nil (h : listing.Offends lookups key param) :
    listing.complaintsOf lookups key param ≠ [] := by
  unfold complaintsOf
  split
  · rename_i filter hfilter
    -- a key with a filter is declared, so it is what it comes with that offends
    rcases h with hundeclared | ⟨filter', hfilter', hnot⟩
    · exact absurd (.inr (.inl ⟨filter, hfilter⟩)) hundeclared
    · rw [hfilter] at hfilter'
      cases hfilter'
      exact Filter.complaints_ne_nil hnot
  · split <;> exact List.cons_ne_nil _ _

/-! ## One key -/

/-- Every filter's lookup answers. -/
def LookupsAnswer (listing : Listing) (lookups : LookupSet) : Prop :=
  ∀ key filter, listing.filters.get? key = some filter → filter.CanLookUp lookups

/-- The lookups that a declaration names are all that its listing needs. -/
theorem lookupsAnswer_of_build {declaration : Declaration} {listing : Listing}
    (h : declaration.build = .ok listing)
    (hready : ∀ e ∈ declaration.filters, ∀ name ∈ e.2.lookup,
      (lookups.find? name).any (·.status = .ready)) : listing.LookupsAnswer lookups := by
  intro key filter hfilter name hlookup
  rw [OrderedMap.get?_eq_some_iff, (Declaration.builtInto_of_build h).filters] at hfilter
  obtain ⟨lookup, hfind, hstatus⟩ := (Option.any_eq_true _ _).1 (hready _ hfilter name hlookup)
  exact ⟨lookup, hfind, of_decide_eq_true hstatus⟩

/-- No filter has a reserved key, so no reserved key offends. -/
theorem notReserved_of_offends (haccepted : listing.Accepted)
    (h : listing.Offends lookups key param) : key ∉ reservedParams := by
  rcases h with hundeclared | ⟨filter, hfilter, -⟩
  · exact fun hmem => hundeclared (.inl hmem)
  · exact haccepted.notMem_reservedParams hfilter

/-- A key that offends is rejected, with what is said of it. -/
theorem readParam_of_offends (haccepted : listing.Accepted)
    (hready : listing.LookupsAnswer lookups) (h : listing.Offends lookups key param) :
    listing.readParam lookups key param
      = .ok (.rejected (listing.complaintsOf lookups key param)) := by
  have hreserved := notReserved_of_offends haccepted h
  unfold readParam complaintsOf
  rw [if_neg (by simpa using hreserved)]
  rcases hfilter : listing.filters.get? key with _ | filter
  · have hundeclared : ¬listing.Declares key := by
      rcases h with hundeclared | ⟨filter, hfilter', -⟩
      · exact hundeclared
      · rw [hfilter] at hfilter'
        cases hfilter'
    -- it may still be the companion of a filter without logic
    show Except.ok (listing.readCompanion key param) = _
    unfold readCompanion
    show Except.ok (match listing.companionOwner? key with
      | some (owner, filter) => _
      | none => _) = _
    rcases howner : listing.companionOwner? key with _ | ⟨owner, filter⟩
    · rfl
    · obtain ⟨hkey, hfilter⟩ := companionOwner?_eq_some_iff.1 howner
      have hlogic : ¬filter.takesLogic := fun hlogic =>
        hundeclared (.inr (.inr ⟨owner, filter, hkey, hfilter, hlogic⟩))
      simp only [if_neg hlogic]
  · have hnot : filter.accepts lookups param = false := by
      rcases h with hundeclared | ⟨filter', hfilter', hnot⟩
      · exact absurd (.inr (.inl ⟨filter, hfilter⟩)) hundeclared
      · rw [hfilter] at hfilter'
        cases hfilter'
        exact hnot
    simp only [Filter.interpret_of_not_accepts (hready key filter hfilter) hnot]
    rfl

/-- A key that does not offend is read, and without an error. -/
theorem readParam_of_not_offends (hready : listing.LookupsAnswer lookups)
    (h : ¬listing.Offends lookups key param) :
    ∃ r, listing.readParam lookups key param = .ok r ∧ r.errors = [] := by
  obtain ⟨hdeclared, haccepts⟩ := not_offends_iff.1 h
  unfold readParam
  split
  · exact ⟨_, rfl, rfl⟩
  · rename_i hreserved
    -- a declared key that is neither reserved nor a filter's is a companion
    rcases hfilter : listing.filters.get? key with _ | filter
    · refine ⟨_, rfl, ?_⟩
      obtain ⟨owner, filter, hkey, hfilter, hlogic⟩ :=
        (hdeclared.resolve_left (by simpa using hreserved)).resolve_left (by simp [hfilter])
      have howner : (companionOf? key).bind (fun owner => (listing.filters.get? owner).map (owner, ·))
          = some (owner, filter) := companionOwner?_eq_some_iff.2 ⟨hkey, hfilter⟩
      unfold readCompanion
      rw [howner]
      simp only [if_pos hlogic]
      rfl
    · have hinterpret : filter.interpret lookups key param = .ok .blank
          ∨ ∃ v, filter.interpret lookups key param = .ok (.value v) :=
        Filter.interpret_of_accepts (hready key filter hfilter) (haccepts filter hfilter)
      rcases hinterpret with hblank | ⟨v, hv⟩
      · refine ⟨.nothing, ?_, rfl⟩
        simp only [hblank]
        rfl
      · refine ⟨.value key v filter.switchesBase, ?_, rfl⟩
        simp only [hv]
        rfl

/-- A key is reported just when it offends. -/
theorem errors_reading (haccepted : listing.Accepted) (hready : listing.LookupsAnswer lookups) :
    (listing.reading lookups (key, param)).errors
      = if listing.Offends lookups key param then listing.complaintsOf lookups key param else [] := by
  unfold reading
  split
  · rename_i h
    rw [readParam_of_offends haccepted hready h]
    rfl
  · rename_i h
    obtain ⟨r, hr, hnone⟩ := readParam_of_not_offends hready h
    rw [hr]
    exact hnone

/-! ## The search over several columns -/

/-- The key is that of a filter on a column or on the substrings of one. -/
def Searchable (listing : Listing) (key : String) : Prop :=
  ∃ filter, listing.filters.get? key = some filter
    ∧ ((∃ column fixed, filter.target = .column column fixed)
      ∨ ∃ column, filter.target = .substring column)

/-- The keys that cannot be searched are reported together. -/
def searchComplaints (listing : Listing) (keys : List String) : List ParamError :=
  match keys.filter (!listing.isSearchable ·) with
  | [] => []
  | unknown => [.invalidSearchColumns unknown]

/-- Filters on a column and on substrings can be searched, and no others. -/
theorem isSearchable_iff : listing.isSearchable key ↔ listing.Searchable key := by
  unfold isSearchable Searchable
  rcases listing.filters.get? key with _ | filter
  · simp
  · have hcolumn : filter.searchColumn.isSome ↔ (∃ column fixed, filter.target = .column column fixed)
        ∨ ∃ column, filter.target = .substring column := by
      unfold Filter.searchColumn
      rcases filter.target with ⟨c, fixed⟩ | j | c | ⟨c, rule⟩ <;> simp
    simpa using hcolumn

/-- Nothing is said of a search whose keys can all be searched. -/
theorem searchComplaints_eq_nil_iff {keys : List String} :
    listing.searchComplaints keys = [] ↔ ∀ key ∈ keys, listing.Searchable key := by
  have hunknown : keys.filter (!listing.isSearchable ·) = [] ↔
      ∀ key ∈ keys, listing.Searchable key := by
    rw [List.filter_eq_nil_iff]
    simp only [Bool.not_eq_true', Bool.not_eq_false, isSearchable_iff]
  rw [← hunknown]
  unfold searchComplaints
  split
  · rename_i hnil
    simp [hnil]
  · rename_i hne
    simpa using hne

/-- What reading the search reports, whether there is a text to search for or not. -/
theorem errors_readSearch (keys : List String) (text : String) :
    (match listing.readSearch keys text with
      | .ok _ => []
      | .error e => [e]) = listing.searchComplaints keys := by
  unfold readSearch searchComplaints
  rcases keys.filter (!listing.isSearchable ·) with _ | ⟨u, us⟩
  · by_cases hnothing : (keys.isEmpty || Text.isBlankText text) = true
    · simp only [if_pos hnothing]
    · simp only [if_neg hnothing]
  · rfl

/-- The search is read from its own parameter, if that is there. -/
theorem errors_searchOf (pairs : List (String × String)) :
    (match listing.searchOf (.ofPairs pairs) with
      | .ok _ => []
      | .error e => [e])
      = listing.searchComplaints (ParamValue.ofTexts (textsOf pairs "mclist")).items := by
  unfold searchOf
  rw [QueryParams.get?_ofPairs]
  by_cases hmem : "mclist" ∈ keysOf pairs
  · rw [if_pos hmem]
    exact errors_readSearch _ _
  · rw [if_neg hmem, textsOf_eq_nil_iff.2 hmem]
    rfl

end Listing

/-! ## All keys -/

theorem flatMap_filter_eq {α β : Type} (p : α → Bool) (f : α → List β) (xs : List α) :
    (xs.filter p).flatMap f = xs.flatMap fun x => if p x then f x else [] := by
  induction xs with
  | nil => rfl
  | cons x xs ih =>
    rw [List.filter_cons, List.flatMap_cons, ← ih]
    split <;> simp

namespace Listing

/-- What is reported of a request: of each offending key in turn, and then of the search. -/
def mistakes (listing : Listing) (lookups : LookupSet) (pairs : List (String × String)) :
    List ParamError :=
  let offending := (keysOf pairs).filter fun key =>
    listing.Offends lookups key (.ofTexts (textsOf pairs key))
  (offending.flatMap fun key => listing.complaintsOf lookups key (.ofTexts (textsOf pairs key)))
    ++ listing.searchComplaints (ParamValue.ofTexts (textsOf pairs "mclist")).items

variable {listing : Listing} {lookups : LookupSet}

/-- There are no mistakes if no key offends and every key to search in can be searched. -/
theorem mistakes_eq_nil_iff {pairs : List (String × String)} :
    listing.mistakes lookups pairs = [] ↔
      (∀ key ∈ pairs.map Prod.fst, listing.Declares key)
        ∧ (∀ key ∈ pairs.map Prod.fst, ∀ filter, listing.filters.get? key = some filter →
            filter.accepts lookups (.ofTexts (textsOf pairs key)))
        ∧ ∀ item ∈ (ParamValue.ofTexts (textsOf pairs "mclist")).items,
            listing.Searchable item := by
  -- each offending key is complained about, so no complaints means no such key
  have hnone : (((keysOf pairs).filter fun key =>
        listing.Offends lookups key (.ofTexts (textsOf pairs key))).flatMap fun key =>
      listing.complaintsOf lookups key (.ofTexts (textsOf pairs key))) = []
      ↔ ∀ key ∈ keysOf pairs, ¬listing.Offends lookups key (.ofTexts (textsOf pairs key)) := by
    rw [List.flatMap_eq_nil_iff]
    constructor
    · -- an offending key would have something reported
      intro hall key hkey h
      have hmem : key ∈ (keysOf pairs).filter fun key =>
          listing.Offends lookups key (.ofTexts (textsOf pairs key)) :=
        List.mem_filter.2 ⟨hkey, decide_eq_true h⟩
      exact complaintsOf_ne_nil h (hall key hmem)
    · intro hall key hkey
      obtain ⟨hkey, h⟩ := List.mem_filter.1 hkey
      exact absurd (of_decide_eq_true h) (hall key hkey)
  rw [mistakes, List.append_eq_nil_iff, searchComplaints_eq_nil_iff, hnone, ← and_assoc]
  refine and_congr_left fun _ => ?_
  simp only [not_offends_iff, mem_keysOf]
  exact forall₂_and

/-- Reading an accepted listing's request does not fail while its lookups answer. -/
theorem exists_readRequest (haccepted : listing.Accepted) (hready : listing.LookupsAnswer lookups)
    (params : QueryParams) : ∃ request, listing.readRequest lookups params = .ok request := by
  have hread : ∀ e ∈ params.toList, ∃ r, listing.readParam lookups e.1 e.2 = .ok r := by
    intro e _
    -- each parameter is read, whether its key offends or not
    by_cases h : listing.Offends lookups e.1 e.2
    · exact ⟨_, readParam_of_offends haccepted hready h⟩
    · obtain ⟨r, hr, -⟩ := readParam_of_not_offends hready h
      exact ⟨r, hr⟩
  exact ⟨_, readRequest_eq_ok_iff.2 ⟨hread, rfl⟩⟩

/-- The errors of a request are the mistakes in its pairs. -/
theorem errors_readRequest (haccepted : listing.Accepted) (hready : listing.LookupsAnswer lookups)
    {pairs : List (String × String)} {request : ListRequest}
    (h : listing.readRequest lookups (.ofPairs pairs) = .ok request) :
    request.errors = listing.mistakes lookups pairs := by
  obtain ⟨-, rfl⟩ := readRequest_eq_ok_iff.1 h
  rw [mistakes, ← errors_searchOf, flatMap_filter_eq]
  show ((QueryParams.ofPairs pairs).toList.map (listing.reading lookups)).flatMap Reading.errors
    ++ _ = _
  -- the parameters are the keys in order, each with its texts
  rw [QueryParams.toList_ofPairs, List.map_map, List.flatMap_map]
  congr 1
  refine List.flatMap_congr fun key _ => ?_
  simp only [Function.comp_apply, errors_reading haccepted hready, decide_eq_true_eq]

/-- An offending key's one parameter is rejected, so it gives no value. -/
theorem get?_values_of_offends (haccepted : listing.Accepted)
    (hready : listing.LookupsAnswer lookups) {pairs : List (String × String)}
    {request : ListRequest} (h : listing.readRequest lookups (.ofPairs pairs) = .ok request)
    {key : String} (hoffends : listing.Offends lookups key (.ofTexts (textsOf pairs key))) :
    request.selection.values.get? key = none := by
  rw [Option.eq_none_iff_forall_ne_some]
  intro value hvalue
  obtain ⟨hreserved, param, filter, hparam, hfilter, hinterpret⟩ := (get?_values_iff h).1 hvalue
  -- the value would come from the very parameter that is rejected
  have hofTexts : param = .ofTexts (textsOf pairs key) := by
    rw [QueryParams.get?_ofPairs] at hparam
    split at hparam
    · exact (Option.some.inj hparam).symm
    · cases hparam
  have hrejected := readParam_of_offends haccepted hready hoffends
  rw [← hofTexts,
    readParam_value_iff.2 ⟨rfl, hreserved, filter, hfilter, rfl, hinterpret⟩] at hrejected
  cases hrejected

end Listing

/-- An accepted listing whose lookups answer reads every request. The request has no errors if its
keys are declared, its filters accept what their keys come with and its search names columns. Its
errors are in any case those of the offending keys, in the order in which these first appear, and
then that of the search; and it has no value for an offending key. -/
theorem readRequest_reports_every_mistake {listing : Listing} (haccepted : listing.Accepted)
    {lookups : LookupSet} (hready : listing.LookupsAnswer lookups)
    (pairs : List (String × String)) :
    ∃ request, listing.readRequest lookups (.ofPairs pairs) = .ok request
      ∧ (request.errors = [] ↔
          (∀ key ∈ pairs.map Prod.fst, listing.Declares key)
          ∧ (∀ key ∈ pairs.map Prod.fst, ∀ filter, listing.filters.get? key = some filter →
              filter.accepts lookups (.ofTexts (textsOf pairs key)))
          ∧ ∀ item ∈ (ParamValue.ofTexts (textsOf pairs "mclist")).items, listing.Searchable item)
      ∧ request.errors = listing.mistakes lookups pairs
      ∧ ∀ key, listing.Offends lookups key (.ofTexts (textsOf pairs key)) →
          request.selection.values.get? key = none := by
  -- reading never stops at a mistake
  obtain ⟨request, hread⟩ := Listing.exists_readRequest haccepted hready (.ofPairs pairs)
  have herrors := Listing.errors_readRequest haccepted hready hread
  refine ⟨request, hread, ?_, herrors, fun key hoffends => ?_⟩
  · rw [herrors]
    exact Listing.mistakes_eq_nil_iff
  · exact Listing.get?_values_of_offends haccepted hready hread hoffends

/-- The one lookup that races need. -/
def Races.lookups : LookupSet := ⟨[.ofEntries "classes" [⟨1, ["Wizard", "Wiz"]⟩]]⟩

theorem Races.lookupsAnswer {listing : Listing} (h : declaration.build = .ok listing) :
    listing.LookupsAnswer lookups :=
  Listing.lookupsAnswer_of_build h (by decide)

/-- Mistakes of every kind, beside parameters that are right. -/
def Races.mistaken : List (String × String) :=
  [ ("colour", "red"), ("display", "yes"), ("race_speed", "fast"), ("edition_id", "x"),
    ("mclist", "race_name,tail"), ("display_logic", "and"), ("race_speed", "30") ]

/-- A key that no filter has, a text that is no number, a list without numbers, and a logic that
there is none of. -/
theorem Races.mistakes_mistaken {listing : Listing} (h : declaration.build = .ok listing) :
    listing.mistakes lookups mistaken
        = [ .unknownParameter "colour", .invalidValue "race_speed" "fast",
            .noValidValues "edition_id" "x", .unsupportedLogic "display",
            .invalidSearchColumns ["tail"] ]
      ∧ listing.Offends lookups "race_speed" (.ofTexts (textsOf mistaken "race_speed")) := by
  have hbuilt : declaration.build.toOption.all fun listing =>
      listing.mistakes lookups mistaken
          = [ .unknownParameter "colour", .invalidValue "race_speed" "fast",
              .noValidValues "edition_id" "x", .unsupportedLogic "display",
              .invalidSearchColumns ["tail"] ]
        ∧ listing.Offends lookups "race_speed" (.ofTexts (textsOf mistaken "race_speed")) := by
    decide +kernel
  rw [h] at hbuilt
  exact of_decide_eq_true hbuilt

/-- Each mistake has its own error, in the order in which the keys appear, and the search comes
last. The key with a right and a wrong text has no value. -/
theorem readRequest_reports_every_mistake_races :
    ∃ listing, Races.declaration.build = .ok listing ∧ listing.LookupsAnswer Races.lookups
      ∧ ∃ request, listing.readRequest Races.lookups (.ofPairs Races.mistaken) = .ok request
        ∧ request.errors
          = [ .unknownParameter "colour", .invalidValue "race_speed" "fast",
              .noValidValues "edition_id" "x", .unsupportedLogic "display",
              .invalidSearchColumns ["tail"] ]
        ∧ request.selection.values.get? "race_speed" = none := by
  obtain ⟨listing, hbuild⟩ := Resource.races.exists_build
  have hready := Races.lookupsAnswer hbuild
  obtain ⟨hmistakes, hoffends⟩ := Races.mistakes_mistaken hbuild
  obtain ⟨request, hread, -, herrors, hvalues⟩ :=
    readRequest_reports_every_mistake ⟨_, hbuild⟩ hready Races.mistaken
  rw [hmistakes] at herrors
  exact ⟨listing, hbuild, hready, request, hread, herrors, hvalues _ hoffends⟩

end Compendium
