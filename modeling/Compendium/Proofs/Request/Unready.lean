import Compendium.Proofs.Listing.Accepted
import Compendium.Proofs.QueryParams.Grouping
import Compendium.Proofs.Request.Acceptance

/-!
# Compendium — lookups that are not ready

Only a lookup can keep a request from being read, and only if it is asked while it is not ready. A
filter asks its lookup for the items of a list or for a text that is not blank; a filter on
substrings, and any filter that is given nothing, reads its parameter without it. Parameters are
read in order, so the first that has to wait for its lookup ends the reading, and no mistake before
or behind it changes that.

* `Filter.interpret_eq_error_iff` and `Listing.readParam_eq_error_iff` are about one parameter.
* `reading_fails_with_first_unready` is about the request.
-/

namespace Compendium

namespace LookupSet

variable {lookups : LookupSet} {name : String}

/-- A lookup that is missing or not ready fails with the name that was asked for. -/
theorem resolve_of_not_answers (h : ¬lookups.Answers name) (text : String) :
    lookups.resolve name text = .error (.notReady name) := by
  unfold resolve
  rcases hfind : lookups.find? name with _ | lookup
  · rfl
  · -- what was found complains in its own name, which is the one that was asked for
    have hname : lookup.name = name := by simpa using List.find?_some hfind
    have hstatus : lookup.status ≠ .ready := fun hready => h ⟨lookup, hfind, hready⟩
    show lookup.resolve text = _
    unfold Lookup.status at hstatus
    unfold Lookup.resolve Lookup.index
    cases hstate : lookup.state with
    | uninitialized =>
      rw [hname]
      rfl
    | loading =>
      rw [hname]
      rfl
    | ready index =>
      rw [hstate] at hstatus
      exact absurd rfl hstatus

theorem answers_iff :
    lookups.Answers name ↔ (lookups.find? name).any (·.status == .ready) := by
  rw [Answers, Option.any_eq_true]
  simp only [beq_iff_eq]

instance : Decidable (lookups.Answers name) := decidable_of_iff _ answers_iff.symm

end LookupSet

/-! ## One filter -/

namespace Filter

/-- The filter asks its lookup about the parameter, if it has one. -/
def looksUp (f : Filter) (param : ParamValue) : Bool :=
  if f.takesMany then !param.items.isEmpty
  else !f.isSubstring && !Text.isBlankText param.head

variable {f : Filter} {lookups : LookupSet} {key : String} {param : ParamValue}

theorem interpretMany_of_unready {name : String} (hlookup : f.lookup = some name)
    (hnot : ¬lookups.Answers name) (hitems : param.items ≠ []) :
    f.interpretMany lookups key param = .error (.notReady name) := by
  obtain ⟨item, rest, hcons⟩ := List.exists_cons_of_ne_nil hitems
  have hscalars : f.scalars lookups key param.items = .error (.notReady name) := by
    rw [scalars, hlookup, hcons]
    show ((item :: rest).mapM (lookups.resolve name) >>= fun ids => _) = _
    rw [List.mapM_cons, LookupSet.resolve_of_not_answers hnot]
    rfl
  rw [interpretMany, if_neg (by simpa using hitems), hscalars]
  rfl

theorem interpretOne_of_unready {name text : String} (hlookup : f.lookup = some name)
    (hnot : ¬lookups.Answers name) (hsubstring : f.isSubstring = false)
    (hblank : Text.isBlankText text = false) :
    f.interpretOne lookups key text = .error (.notReady name) := by
  rw [interpretOne, hblank, hsubstring, if_neg Bool.false_ne_true, if_neg Bool.false_ne_true,
    hlookup]
  show (lookups.resolve name text).map _ = _
  rw [LookupSet.resolve_of_not_answers hnot]
  rfl

/-- Whether it takes one value or many, a filter that asks an unready lookup fails with its name. -/
theorem interpret_of_unready {name : String} (hlookup : f.lookup = some name)
    (hnot : ¬lookups.Answers name) (h : f.looksUp param = true) :
    f.interpret lookups key param = .error (.notReady name) := by
  unfold looksUp at h
  unfold interpret
  split
  · rename_i hmany
    rw [if_pos hmany] at h
    exact interpretMany_of_unready hlookup hnot (by simpa using h)
  · rename_i hmany
    rw [if_neg hmany, Bool.and_eq_true, Bool.not_eq_true', Bool.not_eq_true'] at h
    exact interpretOne_of_unready hlookup hnot h.1 h.2

/-- What is read without the lookup is read in whatever state the lookup is. -/
theorem exists_interpret_of_not_looksUp (h : f.looksUp param = false) :
    ∃ i, f.interpret lookups key param = .ok i := by
  unfold looksUp at h
  unfold interpret
  -- a list without items is blank; a single text is blank or a substring
  split
  · rename_i hmany
    rw [if_pos hmany, Bool.not_eq_false'] at h
    exact ⟨.blank, by rw [interpretMany, if_pos h]⟩
  · rename_i hmany
    rw [if_neg hmany, Bool.and_eq_false_iff, Bool.not_eq_false', Bool.not_eq_false'] at h
    rw [interpretOne]
    split
    · exact ⟨_, rfl⟩
    · rename_i hblank
      rw [if_pos (h.resolve_right hblank)]
      exact ⟨_, rfl⟩

/-- A filter whose lookup answers never fails. -/
theorem exists_interpret_of_canLookUp (h : f.CanLookUp lookups) :
    ∃ i, f.interpret lookups key param = .ok i := by
  rcases haccepts : f.accepts lookups param with _ | _
  · exact ⟨_, interpret_of_not_accepts h haccepts⟩
  · rcases interpret_of_accepts h haccepts with hblank | ⟨v, hv⟩
    · exact ⟨_, hblank⟩
    · exact ⟨_, hv⟩

/-- Only the filter's own lookup keeps it from being interpreted, and only if it is asked. -/
theorem interpret_eq_error_iff {e : LookupError} :
    f.interpret lookups key param = .error e ↔ ∃ name, f.lookup = some name
      ∧ f.looksUp param = true ∧ ¬lookups.Answers name ∧ e = .notReady name := by
  constructor
  · intro h
    -- a filter with a lookup that answers, or without one, does not fail
    by_cases hready : f.CanLookUp lookups
    · obtain ⟨i, hi⟩ := exists_interpret_of_canLookUp hready
      rw [hi] at h
      cases h
    · obtain ⟨name, hlookup, hnot⟩ : ∃ name, f.lookup = some name ∧ ¬lookups.Answers name := by
        simpa [CanLookUp] using hready
      rcases hlooks : f.looksUp param with _ | _
      · obtain ⟨i, hi⟩ := exists_interpret_of_not_looksUp hlooks
        rw [hi] at h
        cases h
      · rw [interpret_of_unready hlookup hnot hlooks] at h
        cases h
        exact ⟨name, hlookup, rfl, hnot, rfl⟩
  · rintro ⟨name, hlookup, hlooks, hnot, rfl⟩
    exact interpret_of_unready hlookup hnot hlooks

end Filter

/-! ## One parameter -/

namespace Listing

/-- The parameter has to wait for the lookup: its filter asks it, and it does not answer. -/
def WaitsFor (listing : Listing) (lookups : LookupSet) (key : String) (param : ParamValue)
    (name : String) : Prop :=
  ∃ filter, listing.filters.get? key = some filter ∧ filter.lookup = some name
    ∧ filter.looksUp param = true ∧ ¬lookups.Answers name

variable {listing : Listing} {lookups : LookupSet} {key : String} {param : ParamValue}
  {e : LookupError}

/-- The lookup that the parameter has to wait for, if there is one. -/
def awaited? (listing : Listing) (lookups : LookupSet) (key : String) (param : ParamValue) :
    Option String :=
  (listing.filters.get? key).bind fun filter =>
    if filter.looksUp param then filter.lookup.filter fun name => ¬lookups.Answers name else none

/-- The lookup that is awaited is the filter's own, if it is asked and does not answer. -/
theorem awaited?_eq_some_iff {name : String} :
    listing.awaited? lookups key param = some name ↔ listing.WaitsFor lookups key param name := by
  rw [awaited?, Option.bind_eq_some_iff]
  refine exists_congr fun filter => and_congr_right fun _ => ?_
  cases filter.looksUp param with
  | false => simp
  | true => simp [Option.filter_eq_some_iff]

/-- Reserved parameters and companions are read without a lookup. -/
theorem readParam_eq_error_iff :
    listing.readParam lookups key param = .error e ↔ key ∉ reservedParams
      ∧ ∃ name, listing.WaitsFor lookups key param name ∧ e = .notReady name := by
  unfold readParam WaitsFor
  by_cases hreserved : key ∈ reservedParams
  · simp [hreserved]
  · rw [if_neg (by simpa using hreserved)]
    rcases hfilter : listing.filters.get? key with _ | filter
    · simp
    · simp only [map_eq_error_iff, Filter.interpret_eq_error_iff]
      constructor
      · rintro ⟨name, hlookup, hlooks, hnot, rfl⟩
        exact ⟨hreserved, name, ⟨filter, rfl, hlookup, hlooks, hnot⟩, rfl⟩
      · rintro ⟨-, name, ⟨filter', hfilter', hlookup, hlooks, hnot⟩, rfl⟩
        cases hfilter'
        exact ⟨name, hlookup, hlooks, hnot, rfl⟩

/-- No filter has a reserved key. -/
theorem readParam_eq_error_iff_of_accepted (haccepted : listing.Accepted) :
    listing.readParam lookups key param = .error e
      ↔ ∃ name, listing.WaitsFor lookups key param name ∧ e = .notReady name := by
  rw [readParam_eq_error_iff, and_iff_right_iff_imp]
  rintro ⟨name, ⟨filter, hfilter, -⟩, -⟩
  exact haccepted.notMem_reservedParams hfilter

/-- A parameter is read unless it has to wait. -/
theorem exists_readParam_iff (haccepted : listing.Accepted) :
    (∃ r, listing.readParam lookups key param = .ok r)
      ↔ ∀ name, ¬listing.WaitsFor lookups key param name := by
  rcases hread : listing.readParam lookups key param with e | r
  · obtain ⟨name, hwaits, -⟩ := (readParam_eq_error_iff_of_accepted haccepted).1 hread
    exact iff_of_false (fun ⟨r, hr⟩ => by cases hr) fun hnone => hnone name hwaits
  · refine iff_of_true ⟨r, rfl⟩ fun name hwaits => ?_
    have herror := (readParam_eq_error_iff_of_accepted haccepted).2 ⟨name, hwaits, rfl⟩
    rw [hread] at herror
    cases herror

/-! ## The request -/

/-- A request is not read if and only if one of its parameters is not; the first such parameter says
why. -/
theorem readRequest_eq_error_iff {params : QueryParams} :
    listing.readRequest lookups params = .error e
      ↔ ∃ before entry after, params.toList = before ++ entry :: after
        ∧ (∀ entry' ∈ before, ∃ r, listing.readParam lookups entry'.1 entry'.2 = .ok r)
        ∧ listing.readParam lookups entry.1 entry.2 = .error e := by
  rw [readRequest, bind_eq_error_iff, mapM_eq_error_iff]
  refine or_iff_left ?_
  rintro ⟨readings, -, hpure⟩
  cases hpure

/-- There is no other failure than a lookup that is not ready. -/
theorem eq_notReady_of_readRequest {params : QueryParams}
    (h : listing.readRequest lookups params = .error e) : ∃ name, e = .notReady name := by
  obtain ⟨_, _, _, _, _, hparam⟩ := readRequest_eq_error_iff.1 h
  obtain ⟨-, name, -, hname⟩ := readParam_eq_error_iff.1 hparam
  exact ⟨name, hname⟩

/-- The first key that has to wait decides what a request fails with. -/
theorem readRequest_ofPairs_eq_error_iff (haccepted : listing.Accepted)
    {pairs : List (String × String)} :
    listing.readRequest lookups (.ofPairs pairs) = .error e
      ↔ ∃ before key after name, keysOf pairs = before ++ key :: after
        ∧ (∀ key' ∈ before, ∀ name',
            ¬listing.WaitsFor lookups key' (.ofTexts (textsOf pairs key')) name')
        ∧ listing.WaitsFor lookups key (.ofTexts (textsOf pairs key)) name
        ∧ e = .notReady name := by
  rw [readRequest_eq_error_iff, QueryParams.toList_ofPairs]
  constructor
  · rintro ⟨before, entry, after, hlist, hbefore, hentry⟩
    -- the parameters are the keys in order, so they are split where these are
    obtain ⟨keys, rest, hkeys, rfl, hrest⟩ := List.map_eq_append_iff.1 hlist
    obtain ⟨key, keys', rfl, rfl, -⟩ := List.map_eq_cons_iff.1 hrest
    obtain ⟨name, hwaits, hname⟩ := (readParam_eq_error_iff_of_accepted haccepted).1 hentry
    refine ⟨keys, key, keys', name, hkeys, fun key' hkey' => ?_, hwaits, hname⟩
    exact (exists_readParam_iff haccepted).1 (hbefore _ (List.mem_map_of_mem hkey'))
  · rintro ⟨before, key, after, name, hkeys, hbefore, hwaits, rfl⟩
    rw [hkeys, List.map_append, List.map_cons]
    refine ⟨_, _, _, rfl, fun entry hentry => ?_, ?_⟩
    · obtain ⟨key', hkey', rfl⟩ := List.mem_map.1 hentry
      exact (exists_readParam_iff haccepted).2 (hbefore key' hkey')
    · exact (readParam_eq_error_iff_of_accepted haccepted).2 ⟨name, hwaits, rfl⟩

/-- Some key has to wait exactly if there is a first one that has to. -/
theorem exists_readRequest_ofPairs_error_iff (haccepted : listing.Accepted)
    {pairs : List (String × String)} :
    (∃ e, listing.readRequest lookups (.ofPairs pairs) = .error e)
      ↔ ∃ key ∈ pairs.map Prod.fst, ∃ name,
        listing.WaitsFor lookups key (.ofTexts (textsOf pairs key)) name := by
  constructor
  · rintro ⟨e, he⟩
    obtain ⟨before, key, after, name, hkeys, -, hwaits, -⟩ :=
      (readRequest_ofPairs_eq_error_iff haccepted).1 he
    have hkey : key ∈ keysOf pairs := by
      rw [hkeys]
      exact List.mem_append_right _ List.mem_cons_self
    exact ⟨key, mem_keysOf.1 hkey, name, hwaits⟩
  · rintro ⟨key, hkey, name, hwaits⟩
    cases hread : listing.readRequest lookups (.ofPairs pairs) with
    | error e => exact ⟨e, rfl⟩
    | ok request =>
      -- a request that was read has read every parameter
      have hall := (readRequest_eq_ok_iff.1 hread).1
      rw [QueryParams.toList_ofPairs] at hall
      have hparam := hall _ (List.mem_map_of_mem (mem_keysOf.2 hkey))
      exact absurd hwaits ((exists_readParam_iff haccepted).1 hparam name)

end Listing

/-- Reading a request of an accepted listing fails if and only if some key of it is that of a filter
that asks its lookup while the lookup is not ready. It fails with the name of the lookup of the first
such key, in the order in which the keys first appear, and whatever mistakes the request has. -/
theorem reading_fails_with_first_unready {listing : Listing} (haccepted : listing.Accepted)
    (lookups : LookupSet) (pairs : List (String × String)) :
    ((∃ e, listing.readRequest lookups (.ofPairs pairs) = .error e)
        ↔ ∃ key ∈ pairs.map Prod.fst, ∃ name,
          listing.WaitsFor lookups key (.ofTexts (textsOf pairs key)) name)
      ∧ ∀ e, listing.readRequest lookups (.ofPairs pairs) = .error e
        ↔ ∃ before key after name, keysOf pairs = before ++ key :: after
          ∧ (∀ key' ∈ before, ∀ name',
              ¬listing.WaitsFor lookups key' (.ofTexts (textsOf pairs key')) name')
          ∧ listing.WaitsFor lookups key (.ofTexts (textsOf pairs key)) name
          ∧ e = .notReady name :=
  ⟨Listing.exists_readRequest_ofPairs_error_iff haccepted,
    fun _ => Listing.readRequest_ofPairs_eq_error_iff haccepted⟩

namespace Spells

/-- Books are being loaded and schools have been; editions and classes come later. -/
def earlyLookups : LookupSet where
  lookups :=
    [ ⟨"sources", some ⟨"source_books", "book_id", ["title"], none⟩, .loading⟩,
      .ofEntries "schools" [⟨1, ["Abjuration"]⟩],
      .unloaded "editions" ⟨"editions", "edition_id", ["edition_abbrev"], none⟩,
      .unloaded "classes" ⟨"classes", "class_id", ["class_name"], none⟩ ]

/-- A book that is not named, two mistakes, and then an edition and a class. -/
def early : List (String × String) :=
  [ ("source", " "), ("colour", "red"), ("school", "none"), ("source", ""), ("edition_id", "3E"),
    ("classId", "wiz") ]

/-- What the parameter under the key has to wait for. -/
def awaits (pairs : List (String × String)) (key : String) : Option (Option String) :=
  declaration.build.toOption.map fun listing =>
    listing.awaited? earlyLookups key (.ofTexts (textsOf pairs key))

/-- What is found to wait for nothing waits for no lookup of any name. -/
theorem not_waitsFor_of_awaits {listing : Listing} (h : declaration.build = .ok listing)
    {pairs : List (String × String)} {key : String} (hnone : awaits pairs key = some none)
    (name : String) :
    ¬listing.WaitsFor earlyLookups key (.ofTexts (textsOf pairs key)) name := by
  rw [← Listing.awaited?_eq_some_iff, eq_of_map_toOption h hnone]
  exact (Option.some_ne_none name).symm

end Spells

/-- The edition is asked for before the class, and a book that is not named is not asked for. -/
theorem reading_fails_with_first_unready_editions :
    ∃ listing, Spells.declaration.build = .ok listing
      ∧ listing.readRequest Spells.earlyLookups (.ofPairs Spells.early)
        = .error (.notReady "editions")
      ∧ ∃ request, listing.readRequest Spells.earlyLookups (.ofPairs (Spells.early.take 4))
        = .ok request := by
  obtain ⟨listing, hbuild⟩ := Resource.spells.exists_build
  have hfails := reading_fails_with_first_unready ⟨_, hbuild⟩ Spells.earlyLookups
  refine ⟨listing, hbuild, ?_, ?_⟩
  · have hkeys : keysOf Spells.early
        = ["source", "colour", "school"] ++ "edition_id" :: ["classId"] := by
      decide +kernel
    have hbefore : ∀ key ∈ ["source", "colour", "school"],
        Spells.awaits Spells.early key = some none := by
      decide +kernel
    have hedition : Spells.awaits Spells.early "edition_id" = some (some "editions") := by
      decide +kernel
    have hwaits := eq_of_map_toOption hbuild hedition
    rw [Listing.awaited?_eq_some_iff] at hwaits
    refine ((hfails Spells.early).2 _).2 ⟨_, _, _, _, hkeys, fun key hkey => ?_, hwaits, rfl⟩
    exact Spells.not_waitsFor_of_awaits hbuild (hbefore key hkey)
  · have hnone : ∀ key ∈ (Spells.early.take 4).map Prod.fst,
        Spells.awaits (Spells.early.take 4) key = some none := by
      decide +kernel
    cases hread : listing.readRequest Spells.earlyLookups (.ofPairs (Spells.early.take 4)) with
    | ok request => exact ⟨request, rfl⟩
    | error e =>
      obtain ⟨key, hkey, name, hwaits⟩ := (hfails _).1.1 ⟨e, hread⟩
      exact absurd hwaits (Spells.not_waitsFor_of_awaits hbuild (hnone key hkey) name)

end Compendium
