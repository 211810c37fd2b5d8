import Mathlib.Data.List.Induction
import Compendium.Proofs.FirstOccurrences
import Compendium.Proofs.Listing.Accepted
import Compendium.Statement.Clauses

/-!
# Compendium — selecting step by step

A selection is filled in steps, each setting a value, a quantifier or the search, in any order and
any number of times. What it compiles to does not show how it was filled. It shows the filters that
have a value in the end, in the order in which each was first set, the values that were set last,
whether all of several values were asked for last, and the last search.

* `Selection.ofSteps_eq` says what the steps leave behind.
* `Selection.clauses_eq` says which of it is compiled.
* `clauses_keep_no_trace` compares two ways to fill a selection.
-/

namespace Compendium

/-! ## Maps filled in steps -/

/-- What was written last under a key. -/
def lastOf {α : Type} (es : List (String × α)) (key : String) : Option α :=
  ((es.filter (·.1 == key)).map Prod.snd).getLast?

section

variable {α : Type} (es : List (String × α))

/-- What is written last is read, under its own key. -/
theorem lastOf_concat (e : String × α) (key : String) :
    lastOf (es ++ [e]) key = if key = e.1 then some e.2 else lastOf es key := by
  unfold lastOf
  by_cases h : key = e.1
  · simp [h]
  · simp [h, Ne.symm h]

theorem OrderedMap.ofList_concat (e : String × α) :
    ofList (es ++ [e]) = (ofList es).insert e.1 e.2 := by
  rw [ofList, List.foldl_append]
  rfl

/-- A map keeps its keys in the order in which they were first written. -/
theorem OrderedMap.keys_ofList : (ofList es).keys = (es.map Prod.fst).eraseDups := by
  induction es using List.reverseRecOn with
  | nil => rfl
  | append_singleton es e ih =>
    rw [ofList_concat, keys_insert, ih, List.map_append, List.map_singleton, eraseDups_concat]
    simp only [List.mem_eraseDups]

/-- A map has under each key what was written there last. -/
theorem OrderedMap.get?_ofList (key : String) : (ofList es).get? key = lastOf es key := by
  induction es using List.reverseRecOn with
  | nil => rfl
  | append_singleton es e ih => rw [ofList_concat, get?_insert, lastOf_concat, ih]

end

namespace Selection

/-! ## Steps -/

inductive Step where
  | value (key : String) (value : FilterValue)
  | quantifier (key : String) (quantifier : Quantifier)
  | search (search : ColumnSearch)
deriving DecidableEq, Repr

namespace Step

def value? : Step → Option (String × FilterValue)
  | value key v => some (key, v)
  | _ => none

def quantifier? : Step → Option (String × Quantifier)
  | quantifier key q => some (key, q)
  | _ => none

def search? : Step → Option ColumnSearch
  | search s => some s
  | _ => none

end Step

def apply (s : Selection) : Step → Selection
  | .value key v => s.setValue key v
  | .quantifier key q => s.setQuantifier key q
  | .search search => s.setSearch search

/-- What an empty selection becomes in steps. -/
def ofSteps (steps : List Step) : Selection := steps.foldl apply empty

/-- The keys that were given a value, in the order in which they first were. -/
def keysSet (steps : List Step) : List String :=
  ((steps.filterMap Step.value?).map Prod.fst).eraseDups

def lastValue (steps : List Step) (key : String) : Option FilterValue :=
  lastOf (steps.filterMap Step.value?) key

def lastQuantifier (steps : List Step) (key : String) : Option Quantifier :=
  lastOf (steps.filterMap Step.quantifier?) key

def lastSearch (steps : List Step) : Option ColumnSearch := (steps.filterMap Step.search?).getLast?

theorem ofSteps_concat (steps : List Step) (step : Step) :
    ofSteps (steps ++ [step]) = (ofSteps steps).apply step := by
  rw [ofSteps, List.foldl_append]
  rfl

/-- Each kind of step is taken by itself. -/
theorem ofSteps_eq (steps : List Step) :
    ofSteps steps
      = ⟨.ofList (steps.filterMap Step.value?), .ofList (steps.filterMap Step.quantifier?),
        lastSearch steps⟩ := by
  induction steps using List.reverseRecOn with
  | nil => rfl
  | append_singleton steps step ih =>
    rw [ofSteps_concat, ih]
    simp only [lastSearch, List.filterMap_append, List.filterMap_cons, List.filterMap_nil]
    -- a step of one kind leaves the other kinds as they were
    cases step with
    | value key v =>
      simp [apply, setValue, Step.value?, Step.quantifier?, Step.search?, OrderedMap.ofList_concat]
    | quantifier key q =>
      simp [apply, setQuantifier, Step.value?, Step.quantifier?, Step.search?,
        OrderedMap.ofList_concat]
    | search s => simp [apply, setSearch, Step.value?, Step.quantifier?, Step.search?]

/-- The values stand in the order in which their keys were first set. -/
theorem keys_values_ofSteps (steps : List Step) : (ofSteps steps).values.keys = keysSet steps := by
  rw [ofSteps_eq]
  exact OrderedMap.keys_ofList _

/-- Each key has the value that was set last. -/
theorem get?_values_ofSteps (steps : List Step) (key : String) :
    (ofSteps steps).values.get? key = lastValue steps key := by
  rw [ofSteps_eq]
  exact OrderedMap.get?_ofList _ key

/-- Each key has the quantifier that was set last, and any if there was none. -/
theorem quantifier_ofSteps (steps : List Step) (key : String) :
    (ofSteps steps).quantifier key = (lastQuantifier steps key).getD .any := by
  rw [quantifier, ofSteps_eq]
  exact congrArg (Option.getD · _) (OrderedMap.get?_ofList _ key)

theorem search_ofSteps (steps : List Step) : (ofSteps steps).search = lastSearch steps := by
  rw [ofSteps_eq]

end Selection

/-! ## What is compiled -/

/-- A quantifier matters only where a group must have all of several values. -/
theorem Listing.filterClauses_congr (listing : Listing) (filter : Filter) {q q' : Quantifier}
    {value : FilterValue} (h : needsAll q value.toList = needsAll q' value.toList) :
    listing.filterClauses filter q value = listing.filterClauses filter q' value := by
  unfold filterClauses
  rcases filter.target with ⟨column, fixed⟩ | j | column | ⟨column, rule⟩
  · simp only [columnClauses, h]
  · simp only [junctionPredicate, h]
  · rfl
  · rfl

namespace Selection

variable (listing : Listing)

/-- The key is a filter's and its value is not empty. -/
def isAsked (key : String) (value : Option FilterValue) : Bool :=
  listing.filters.contains key && value.any (!·.isEmpty)

/-- What is no filter's, or is empty, leaves nothing. -/
theorem clausesAt_of_not_asked (s : Selection) {key : String} {value : FilterValue}
    (h : isAsked listing key (some value) = false) : s.clausesAt listing key value = .empty := by
  unfold clausesAt
  rcases hf : listing.filters.get? key with _ | filter
  · rfl
  · have hempty : value.isEmpty = true := by
      simpa [isAsked, OrderedMap.contains, hf] using h
    simp only [hempty, if_true]

theorem foldr_append_filter {keys : List String} {block : String → Clauses} {p : String → Bool}
    (h : ∀ key ∈ keys, p key = false → block key = .empty) (last : Clauses) :
    (keys.map block).foldr Clauses.append last
      = ((keys.filter p).map block).foldr Clauses.append last := by
  induction keys with
  | nil => rfl
  | cons key keys ih =>
    obtain ⟨hkey, hkeys⟩ := List.forall_mem_cons.1 h
    rw [List.map_cons, List.foldr_cons, ih hkeys, List.filter_cons]
    split
    · rfl
    · rename_i hp
      rw [hkey (by simpa using hp)]
      rfl

/-- What is asked for is compiled key by key, and then the search. -/
theorem clauses_eq (s : Selection) :
    s.clauses listing
      = ((s.values.keys.filter fun key => isAsked listing key (s.values.get? key)).map fun key =>
          s.clausesAt listing key ((s.values.get? key).getD default)).foldr Clauses.append
        (s.searchClauses listing) := by
  -- every key of the selection has a value, so none is made up
  have hget : ∀ key ∈ s.values.keys,
      s.values.get? key = some ((s.values.get? key).getD default) := fun key hkey => by
    obtain ⟨value, hvalue⟩ := Option.isSome_iff_exists.1 ((s.values.get?_isSome_iff key).2 hkey)
    rw [hvalue]
    rfl
  rw [clauses, blocks, OrderedMap.toList_eq_map_keys hget, List.map_map]
  refine foldr_append_filter (fun key hkey hasked => ?_) _
  rw [hget key hkey] at hasked
  exact s.clausesAt_of_not_asked listing hasked

/-- A key compiles by its value and, of several values, by whether all are asked for. -/
theorem clausesAt_congr {s s' : Selection} {key : String} {value : FilterValue}
    (h : ∀ filter, listing.filters.get? key = some filter → filter.takesLogic →
      2 ≤ value.toList.length → (s.quantifier key = .all ↔ s'.quantifier key = .all)) :
    s.clausesAt listing key value = s'.clausesAt listing key value := by
  unfold clausesAt
  rcases hf : listing.filters.get? key with _ | filter
  · rfl
  · simp only
    split
    · rfl
    · refine listing.filterClauses_congr filter ?_
      -- of a filter without logic no group is asked to have all values
      by_cases hlogic : filter.takesLogic
      · rw [if_pos hlogic, if_pos hlogic, Bool.eq_iff_iff]
        simp only [needsAll, Bool.and_eq_true, decide_eq_true_eq]
        exact and_congr_left fun hlength => h filter hf hlogic hlength
      · rw [if_neg hlogic, if_neg hlogic]

/-! ## Two ways to fill a selection -/

/-- The keys of filters that have a value in the end which is not empty, in the order in which they
were first given one. -/
def keysLeft (steps : List Step) : List String :=
  (keysSet steps).filter fun key => isAsked listing key (lastValue steps key)

/-- What the steps leave behind for the listing's filters is the same. -/
structure SameEnd (steps steps' : List Step) : Prop where
  keys : keysLeft listing steps = keysLeft listing steps'
  values : ∀ key ∈ keysLeft listing steps, lastValue steps key = lastValue steps' key
  /-- Only a filter that takes logic and has several values can be asked for all of them. -/
  quantifiers : ∀ key ∈ keysLeft listing steps, ∀ filter value,
    listing.filters.get? key = some filter → filter.takesLogic →
    lastValue steps key = some value → 2 ≤ value.toList.length →
      (lastQuantifier steps key = some .all ↔ lastQuantifier steps' key = some .all)
  search : lastSearch steps = lastSearch steps'

/-- All values are asked for only if that was said last. -/
theorem quantifier_ofSteps_eq_all_iff (steps : List Step) (key : String) :
    (ofSteps steps).quantifier key = .all ↔ lastQuantifier steps key = some .all := by
  rw [quantifier_ofSteps]
  rcases lastQuantifier steps key with _ | q <;> simp

/-- A key that is left has a value. -/
theorem lastValue_of_mem_keysLeft {steps : List Step} {key : String}
    (h : key ∈ keysLeft listing steps) : ∃ value, lastValue steps key = some value := by
  have hasked := (List.mem_filter.1 h).2
  rw [isAsked, Bool.and_eq_true] at hasked
  rcases hvalue : lastValue steps key with _ | value
  · rw [hvalue] at hasked
    cases hasked.2
  · exact ⟨value, rfl⟩

/-- Of all steps only the keys that are left are compiled, each with its last value. -/
theorem clauses_ofSteps (steps : List Step) :
    (ofSteps steps).clauses listing
      = ((keysLeft listing steps).map fun key =>
          (ofSteps steps).clausesAt listing key ((lastValue steps key).getD default)).foldr
        Clauses.append ((ofSteps steps).searchClauses listing) := by
  rw [clauses_eq]
  simp only [keys_values_ofSteps, get?_values_ofSteps]
  rfl

end Selection

/-- A selection compiles to the same clauses however it was filled, as long as the same is left in
the end. A quantifier may be set before the value or after it, or for a filter that has no use for
it; values and quantifiers may be set again; keys that are no filters and values that are empty may
come and go. None of it leaves a trace. -/
theorem clauses_keep_no_trace {listing : Listing} {steps steps' : List Selection.Step}
    (h : Selection.SameEnd listing steps steps') :
    (Selection.ofSteps steps).clauses listing = (Selection.ofSteps steps').clauses listing := by
  have hsearch : (Selection.ofSteps steps).searchClauses listing
      = (Selection.ofSteps steps').searchClauses listing := by
    simp only [Selection.searchClauses, Selection.search_ofSteps, h.search]
  rw [Selection.clauses_ofSteps, Selection.clauses_ofSteps, ← h.keys, hsearch]
  congr 1
  -- the same keys are left, so they are compared one by one
  refine List.map_congr_left fun key hkey => ?_
  obtain ⟨value, hvalue⟩ := Selection.lastValue_of_mem_keysLeft listing hkey
  rw [← h.values key hkey, hvalue]
  refine Selection.clausesAt_congr listing fun filter hf hlogic hlength => ?_
  rw [Selection.quantifier_ofSteps_eq_all_iff, Selection.quantifier_ofSteps_eq_all_iff]
  exact h.quantifiers key hkey filter value hf hlogic hvalue hlength

namespace Races

/-- Elves of both of two editions, in a roundabout way. -/
def roundabout : List Selection.Step :=
  [ .quantifier "edition_id" .any, .value "edition_id" (.list [.int 3]),
    .value "colour" (.single (.text "green")), .value "race_name" (.list []),
    .quantifier "race_name" .all, .value "race_speed" (.list []),
    .search ⟨["race_name"], "%sea%"⟩, .quantifier "edition_id" .all,
    .value "race_name" (.single (.text "%elf%")), .value "edition_id" (.list [.int 4, .int 5]),
    .search ⟨["race_name"], "%wood%"⟩ ]

def straight : List Selection.Step :=
  [ .search ⟨["race_name"], "%wood%"⟩, .value "edition_id" (.list [.int 4, .int 5]),
    .value "race_name" (.single (.text "%elf%")), .quantifier "edition_id" .all ]

end Races

/-- A key that is no filter's, two empty values, an editions' list that was replaced and an early
search are forgotten; so is the quantifier of a name, which has one value. -/
theorem clauses_keep_no_trace_elves :
    ∃ listing, Races.declaration.build = .ok listing
      ∧ Selection.SameEnd listing Races.roundabout Races.straight
      ∧ (Selection.ofSteps Races.roundabout).clauses listing
        = (Selection.ofSteps Races.straight).clauses listing := by
  obtain ⟨listing, hbuild⟩ : ∃ listing, Races.declaration.build = .ok listing :=
    Resource.exists_build .races
  have hleft : (Races.declaration.build.toOption.map fun listing =>
      (Selection.keysLeft listing Races.roundabout, Selection.keysLeft listing Races.straight))
        = some (["edition_id", "race_name"], ["edition_id", "race_name"]) := by
    decide +kernel
  have hkeys := eq_of_map_toOption hbuild hleft
  obtain ⟨hroundabout, hstraight⟩ := Prod.mk.inj hkeys
  -- both ways end with the same two editions and the same name
  have hvalues : ∀ key ∈ ["edition_id", "race_name"],
      Selection.lastValue Races.roundabout key = Selection.lastValue Races.straight key := by
    decide +kernel
  -- only the name has another quantifier in the end, and it has one value
  have hquantifiers : ∀ key ∈ ["edition_id", "race_name"],
      Selection.lastQuantifier Races.roundabout key = Selection.lastQuantifier Races.straight key
        ∨ ∀ value ∈ Selection.lastValue Races.roundabout key, value.toList.length < 2 := by
    decide +kernel
  have hsame : Selection.SameEnd listing Races.roundabout Races.straight := by
    refine ⟨hroundabout.trans hstraight.symm, ?_, ?_, rfl⟩
    · rw [hroundabout]
      exact hvalues
    · intro key hkey filter value _ _ hvalue hlength
      rw [hroundabout] at hkey
      rcases hquantifiers key hkey with heq | hshort
      · rw [heq]
      · exact absurd (hshort value hvalue) (Nat.not_lt.2 hlength)
  exact ⟨listing, hbuild, hsame, clauses_keep_no_trace hsame⟩

end Compendium
