import Compendium.Proofs.Listing.Accepted
import Compendium.Proofs.Relational.Meaning
import Compendium.Proofs.Request.Readings

/-!
# Compendium — any and all of several values

What a filter with several values means, whatever the tables hold. A junction filter asks whether an
entity has any, or all, of the values among its junction rows; rows that occur twice and rows with
`NULL` change nothing. A filter on a column that is asked for all of its values asks that of a group.

Counting stands in for comparing sets: the rows counted have none but the values asked for, and these
are all different, so there are as many different values as were asked for only if each is there.

* `card_distinctValues_eq_iff` is the counting argument.
* `Listing.holds_junctionPredicate_iff` is the meaning of a junction filter.
* `quantified_filters_mean` puts both in the context of a request.
-/

namespace Compendium

/-- What the quantifier says of a property of the values. -/
def Quantifier.Over (q : Quantifier) (vs : List Scalar) (P : Scalar → Prop) : Prop :=
  match q with
  | .any => ∃ v ∈ vs, P v
  | .all => ∀ v ∈ vs, P v

/-- Any and all of a single value are the same. -/
theorem Quantifier.over_singleton (q : Quantifier) (v : Scalar) (P : Scalar → Prop) :
    q.Over [v] P ↔ P v := by
  cases q <;> simp [Over]

/-! ## Counting -/

variable {db : Database} {group : List Scope} {s : Scope}

/-- Among values that are all asked for, as many different ones as were asked for are all of them.
-/
theorem card_distinctValues_eq_iff {c : Column} {vs : List Scalar} (hnodup : vs.Nodup)
    (hrestricted : ∀ r ∈ group, ∃ v ∈ vs, r.value c = some v) :
    (distinctValues group c).card = vs.length ↔ ∀ v ∈ vs, ∃ r ∈ group, r.value c = some v := by
  have hcard : vs.toFinset.card = vs.length := List.toFinset_card_of_nodup hnodup
  -- the group has no values but those asked for
  have hsub : distinctValues group c ⊆ vs.toFinset := by
    intro v hv
    obtain ⟨r, hr, hvalue⟩ := mem_distinctValues.1 hv
    obtain ⟨w, hw, hvalue'⟩ := hrestricted r hr
    rw [hvalue] at hvalue'
    cases hvalue'
    exact List.mem_toFinset.2 hw
  constructor
  · intro hcount v hv
    have hle : vs.toFinset.card ≤ (distinctValues group c).card := by omega
    rw [← mem_distinctValues, Finset.eq_of_subset_of_card_le hsub hle]
    exact List.mem_toFinset.2 hv
  · intro hall
    have hsup : vs.toFinset ⊆ distinctValues group c := by
      intro v hv
      exact mem_distinctValues.2 (hall v (List.mem_toFinset.1 hv))
    rw [← hcard, Finset.Subset.antisymm hsub hsup]

/-- A group of rows that have one of the values each has all of them if it has as many. -/
theorem holds_hasAll_iff {c : Column} {vs : List Scalar} (hnodup : vs.Nodup)
    (hlength : vs.length ≤ maxInt64)
    (hrestricted : ∀ r ∈ group, ∃ v ∈ vs, r.value c = some v) :
    (hasAll c vs).holds db group s ↔ ∀ v ∈ vs, ∃ r ∈ group, r.value c = some v := by
  rw [hasAll, Predicate.holds_countDistinct_iff, toInt_clampInt64, Nat.min_eq_left hlength,
    Int.ofNat_inj, card_distinctValues_eq_iff hnodup hrestricted]

/-! ## One filter -/

/-- One value is compared and several are looked up, to the same effect. -/
theorem holds_matchValues_iff {c : Column} {vs : List Scalar} :
    (matchValues c vs).holds db group s ↔ ∃ v ∈ vs, s.value c = some v := by
  unfold matchValues
  split
  · rw [Predicate.holds_eq_iff]
    simp
  · rw [Predicate.holds_isIn_iff]

theorem holds_fixedPredicates_iff {label : String} {fixed : List FixedCondition} :
    (∀ p ∈ fixedPredicates label fixed, p.holds db group s) ↔
      ∀ c ∈ fixed, s.value ⟨label, c.column⟩ = some (.int c.value) := by
  unfold fixedPredicates
  rw [List.forall_mem_map]
  simp only [Predicate.holds_fixed_iff]

/-- Among the junction's rows is one with this id and this value that meets the fixed conditions. -/
def Junction.Has (j : Junction) (db : Database) (id : Option Scalar) (v : Scalar) : Prop :=
  ∃ r ∈ db.rows j.table.name, sameValue (r j.idColumn) id ∧ r j.valueColumn = some v
    ∧ ∀ c ∈ j.fixed, r c.column = some (.int c.value)

/-- All of a single value is no more than any of it. -/
theorem needsAll_iff {q : Quantifier} {vs : List Scalar} :
    needsAll q vs ↔ q = .all ∧ 1 < vs.length := by
  simp [needsAll]

namespace Listing

variable {listing : Listing}

/-- The rows in the subquery of a junction filter. -/
def junctionRows (listing : Listing) (db : Database) (s : Scope) (j : Junction)
    (vs : List Scalar) : List Scope :=
  Predicate.subqueryRows db s j.table j.id (listing.entity.qualify (.onBase j.idColumn))
    (matchValues j.value vs :: fixedPredicates j.table.label j.fixed)

section

variable {j : Junction} {vs : List Scalar} (hlabel : j.table.label ≠ listing.entity.table.label)

include hlabel

/-- The rows in the subquery are the junction's records with the outer row's id, one of the values,
and what the fixed conditions ask. -/
theorem mem_junctionRows_iff {t : Scope} :
    t ∈ listing.junctionRows db s j vs ↔
      ∃ r ∈ db.rows j.table.name, s.bind j.table.label r = t
        ∧ sameValue (r j.idColumn) (s.value ⟨listing.entity.table.label, j.idColumn⟩)
        ∧ (∃ v ∈ vs, r j.valueColumn = some v)
        ∧ ∀ c ∈ j.fixed, r c.column = some (.int c.value) := by
  -- the subquery's label does not hide the outer row's
  have houter : ∀ r, (s.bind j.table.label r).value (listing.entity.qualify (.onBase j.idColumn))
      = s.value ⟨listing.entity.table.label, j.idColumn⟩ :=
    fun r => Scope.value_bind_of_ne s r (Ne.symm hlabel)
  rw [junctionRows, Predicate.mem_subqueryRows, List.forall_mem_cons, holds_matchValues_iff,
    holds_fixedPredicates_iff]
  constructor
  · rintro ⟨⟨r, hr, rfl⟩, hid, hvalue, hfixed⟩
    rw [houter] at hid
    simp only [Junction.id, Junction.value, Scope.value_bind_self] at hid hvalue hfixed
    exact ⟨r, hr, rfl, hid, hvalue, hfixed⟩
  · rintro ⟨r, hr, rfl, hid, hvalue, hfixed⟩
    rw [houter]
    simp only [Junction.id, Junction.value, Scope.value_bind_self]
    exact ⟨⟨r, hr, rfl⟩, hid, hvalue, hfixed⟩

/-- Each of the rows has one of the values. -/
theorem exists_value_of_mem_junctionRows :
    ∀ t ∈ listing.junctionRows db s j vs, ∃ v ∈ vs, t.value j.value = some v := by
  intro t ht
  obtain ⟨r, -, rfl, -, ⟨v, hv, hvalue⟩, -⟩ := (mem_junctionRows_iff hlabel).1 ht
  refine ⟨v, hv, ?_⟩
  rw [Junction.value, Scope.value_bind_self]
  exact hvalue

/-- The junction has a value for the outer row if one of the rows does. -/
theorem has_iff_exists_junctionRow {v : Scalar} (hv : v ∈ vs) :
    j.Has db (s.value ⟨listing.entity.table.label, j.idColumn⟩) v ↔
      ∃ t ∈ listing.junctionRows db s j vs, t.value j.value = some v := by
  constructor
  · rintro ⟨r, hr, hid, hvalue, hfixed⟩
    have hmem : s.bind j.table.label r ∈ listing.junctionRows db s j vs :=
      (mem_junctionRows_iff hlabel).2 ⟨r, hr, rfl, hid, ⟨v, hv, hvalue⟩, hfixed⟩
    refine ⟨_, hmem, ?_⟩
    rw [Junction.value, Scope.value_bind_self]
    exact hvalue
  · rintro ⟨t, ht, hvalue⟩
    obtain ⟨r, hr, rfl, hid, -, hfixed⟩ := (mem_junctionRows_iff hlabel).1 ht
    rw [Junction.value, Scope.value_bind_self] at hvalue
    exact ⟨r, hr, hid, hvalue, hfixed⟩

/-- All of the rows have the outer row's id, so the group of any is all of them. -/
theorem filter_sameId_junctionRows {t : Scope} (ht : t ∈ listing.junctionRows db s j vs) :
    (listing.junctionRows db s j vs).filter (·.value j.id == t.value j.id)
      = listing.junctionRows db s j vs := by
  have hid : ∀ t ∈ listing.junctionRows db s j vs,
      t.value j.id = s.value ⟨listing.entity.table.label, j.idColumn⟩ := by
    intro t ht
    obtain ⟨r, -, rfl, hsame, -⟩ := (mem_junctionRows_iff hlabel).1 ht
    obtain ⟨x, hx, hx'⟩ := sameValue_iff.1 hsame
    rw [Junction.id, Scope.value_bind_self, hx, hx']
  rw [List.filter_eq_self]
  intro t' ht'
  rw [hid t ht, hid t' ht']
  exact BEq.rfl

/-- Some row is there if the junction has any of the values. -/
theorem exists_junctionRow_iff :
    (∃ t, t ∈ listing.junctionRows db s j vs) ↔
      ∃ v ∈ vs, j.Has db (s.value ⟨listing.entity.table.label, j.idColumn⟩) v := by
  constructor
  · rintro ⟨t, ht⟩
    obtain ⟨v, hv, hvalue⟩ := exists_value_of_mem_junctionRows hlabel t ht
    exact ⟨v, hv, (has_iff_exists_junctionRow hlabel hv).2 ⟨t, ht, hvalue⟩⟩
  · rintro ⟨v, hv, hhas⟩
    obtain ⟨t, ht, -⟩ := (has_iff_exists_junctionRow hlabel hv).1 hhas
    exact ⟨t, ht⟩

/-- Some row's group has all of the values if the junction has. -/
theorem exists_junctionGroup_iff (hne : vs ≠ []) (hnodup : vs.Nodup)
    (hlength : vs.length ≤ maxInt64) :
    (∃ t ∈ listing.junctionRows db s j vs,
        let group := (listing.junctionRows db s j vs).filter (·.value j.id == t.value j.id)
        (hasAll j.value vs).holds db group (group.headD s)) ↔
      ∀ v ∈ vs, j.Has db (s.value ⟨listing.entity.table.label, j.idColumn⟩) v := by
  have hone : ∀ t ∈ listing.junctionRows db s j vs, ∃ v ∈ vs, t.value j.value = some v :=
    exists_value_of_mem_junctionRows hlabel
  constructor
  · rintro ⟨t, ht, hhaving⟩ v hv
    rw [filter_sameId_junctionRows hlabel ht] at hhaving
    have hall := (holds_hasAll_iff hnodup hlength hone).1 hhaving
    exact (has_iff_exists_junctionRow hlabel hv).2 (hall v hv)
  · intro hvalues
    -- there is a value to be had, so there is a row whose group to take
    obtain ⟨v, hv⟩ := List.exists_mem_of_ne_nil vs hne
    obtain ⟨t, ht, -⟩ := (has_iff_exists_junctionRow hlabel hv).1 (hvalues v hv)
    refine ⟨t, ht, ?_⟩
    rw [filter_sameId_junctionRows hlabel ht]
    refine (holds_hasAll_iff hnodup hlength hone).2 fun v hv => ?_
    exact (has_iff_exists_junctionRow hlabel hv).1 (hvalues v hv)

/-- A row passes a junction filter if the junction has any, or all, of the values for its id. -/
theorem holds_junctionPredicate_iff {q : Quantifier} (hne : vs ≠ []) (hnodup : vs.Nodup)
    (hlength : vs.length ≤ maxInt64) :
    (listing.junctionPredicate j q vs).holds db group s ↔
      q.Over vs (j.Has db (s.value ⟨listing.entity.table.label, j.idColumn⟩)) := by
  unfold junctionPredicate
  -- counting is needed only for all of several values
  by_cases hall : needsAll q vs
  · rw [if_pos hall, if_pos hall, Predicate.holds_rowExists_grouped_iff]
    obtain ⟨rfl, -⟩ := needsAll_iff.1 hall
    exact exists_junctionGroup_iff hlabel hne hnodup hlength
  · rw [if_neg hall, if_neg hall, Predicate.holds_rowExists_iff]
    refine (exists_junctionRow_iff hlabel).trans ?_
    cases q with
    | any => exact Iff.rfl
    | all =>
      -- all of a single value
      have hsingle : vs.length = 1 := by
        have hpos : 0 < vs.length := List.length_pos_of_ne_nil hne
        have hnot : ¬1 < vs.length := fun h => hall (needsAll_iff.2 ⟨rfl, h⟩)
        omega
      obtain ⟨v, rfl⟩ := List.length_eq_one_iff.1 hsingle
      rw [Quantifier.over_singleton]
      simp

end

end Listing

/-! ## Requests -/

namespace Selection

variable {listing : Listing} {selection : Selection} {key : String} {value : FilterValue}

theorem clausesAt_mem_blocks (h : selection.values.get? key = some value) :
    selection.clausesAt listing key value ∈ selection.blocks listing :=
  List.mem_map.2 ⟨(key, value), (OrderedMap.get?_eq_some_iff _ _ _).1 h, rfl⟩

/-- What a value asks for of rows is among the conditions. -/
theorem mem_conditions_of_clausesAt (h : selection.values.get? key = some value)
    {p : Predicate Column} (hp : p ∈ (selection.clausesAt listing key value).conditions) :
    p ∈ (selection.clauses listing).conditions := by
  rw [conditions_clauses]
  exact List.mem_append_left _ (List.mem_flatMap.2 ⟨_, clausesAt_mem_blocks h, hp⟩)

/-- What a value asks for of groups is among the group conditions. -/
theorem mem_having_of_clausesAt (h : selection.values.get? key = some value)
    {p : Predicate Column} (hp : p ∈ (selection.clausesAt listing key value).having) :
    p ∈ (selection.clauses listing).having := by
  rw [having_clauses]
  exact List.mem_append_left _ (List.mem_flatMap.2 ⟨_, clausesAt_mem_blocks h, hp⟩)

end Selection

namespace Listing

variable {listing : Listing} {lookups : LookupSet} {params : QueryParams} {request : ListRequest}
  {key : String} {filter : Filter} {value : FilterValue}

/-- Every value of a request is compiled, with the quantifier that the request asks for. -/
theorem clausesAt_of_readRequest (hread : listing.readRequest lookups params = .ok request)
    (hfilter : listing.filters.get? key = some filter)
    (hvalue : request.selection.values.get? key = some value) :
    value.toList ≠ [] ∧ value.toList.Nodup
      ∧ request.selection.clausesAt listing key value
        = listing.filterClauses filter (request.selection.quantifier key) value := by
  obtain ⟨-, param, filter', -, hfilter', hinterpret⟩ := (get?_values_iff hread).1 hvalue
  rw [hfilter] at hfilter'
  cases hfilter'
  obtain ⟨hne, hnodup⟩ := (Filter.fits_of_interpret hinterpret).toList
  refine ⟨hne, hnodup, ?_⟩
  have hempty : value.isEmpty = false := by
    rw [FilterValue.isEmpty, List.isEmpty_eq_false_iff]
    exact hne
  -- a filter without logic is never asked for all, so compiling leaves the quantifier as it is
  have hquantifier : (if filter.takesLogic then request.selection.quantifier key else .any)
      = request.selection.quantifier key := by
    rcases hq : request.selection.quantifier key with _ | _
    · split <;> rfl
    · obtain ⟨filter', hfilter', hlogic⟩ := takesLogic_of_quantifier_eq_all hread hq
      rw [hfilter] at hfilter'
      cases hfilter'
      rw [if_pos hlogic]
  unfold Selection.clausesAt
  rw [hfilter]
  show (if value.isEmpty then _ else _) = _
  rw [hempty, hquantifier]
  rfl

end Listing

/-- Of a request for any or for all of several values: a junction filter holds of a row if its
junction has any, or all, of the values for the row's id, and a filter on a column that is asked for
all of its values holds of a group of rows that meet the conditions if each value is in the group.
A list in memory is never longer than a signed word can count (`hlength`). -/
theorem quantified_filters_mean {listing : Listing} {lookups : LookupSet} {params : QueryParams}
    {request : ListRequest} (hread : listing.readRequest lookups params = .ok request)
    {key : String} {filter : Filter} (hfilter : listing.filters.get? key = some filter)
    {value : FilterValue} (hvalue : request.selection.values.get? key = some value)
    (hlength : value.toList.length ≤ maxInt64) :
    (∀ j, filter.target = .junction j → j.table.label ≠ listing.entity.table.label →
      ∃ p, request.selection.clausesAt listing key value = .ofConditions [p]
        ∧ p ∈ (request.selection.clauses listing).conditions
        ∧ ∀ (db : Database) (s : Scope), p.holdsAt db s ↔ (request.selection.quantifier key).Over value.toList
            (j.Has db (s.value ⟨listing.entity.table.label, j.idColumn⟩)))
    ∧ ∀ column fixed, filter.target = .column column fixed →
      request.selection.quantifier key = .all → 1 < value.toList.length →
        ∃ p, (request.selection.clausesAt listing key value).having = [p]
          ∧ p ∈ (request.selection.clauses listing).having
          ∧ ∀ (db : Database) (group : List Scope) (s : Scope),
            (∀ r ∈ group, ∀ q ∈ (request.selection.clauses listing).conditions, q.holdsAt db r) →
              (p.holds db group s ↔ ∀ v ∈ value.toList,
                ∃ r ∈ group, r.value (listing.entity.qualify column) = some v) := by
  obtain ⟨hne, hnodup, hclauses⟩ := Listing.clausesAt_of_readRequest hread hfilter hvalue
  constructor
  · intro j htarget hlabel
    have hblock : request.selection.clausesAt listing key value = .ofConditions
        [listing.junctionPredicate j (request.selection.quantifier key) value.toList] := by
      rw [hclauses, Listing.filterClauses, htarget]
    refine ⟨_, hblock, ?_, fun db s => ?_⟩
    · refine Selection.mem_conditions_of_clausesAt hvalue ?_
      rw [hblock]
      exact List.mem_singleton_self _
    · exact Listing.holds_junctionPredicate_iff hlabel hne hnodup hlength
  · intro column fixed htarget hall hmany
    have hblock : request.selection.clausesAt listing key value
        = listing.columnClauses column fixed .all value.toList := by
      rw [hclauses, Listing.filterClauses, htarget, hall]
    -- two values or more, and all of them, so there is a condition on groups
    have hneeds : needsAll .all value.toList := needsAll_iff.2 ⟨rfl, hmany⟩
    have hhaving : (request.selection.clausesAt listing key value).having
        = [hasAll (listing.entity.qualify column) value.toList] := by
      rw [hblock, Listing.columnClauses]
      exact if_pos hneeds
    refine ⟨_, hhaving, ?_, fun db group s hgroup => ?_⟩
    · refine Selection.mem_having_of_clausesAt hvalue ?_
      rw [hhaving]
      exact List.mem_singleton_self _
    · -- the filter's own condition leaves only the values asked for
      refine holds_hasAll_iff hnodup hlength fun r hr => ?_
      refine holds_matchValues_iff.1 (hgroup r hr _ (Selection.mem_conditions_of_clausesAt hvalue ?_))
      rw [hblock, Listing.columnClauses]
      exact List.mem_cons_self

/-- Classes by their hit dice and by the ids of the books that they are in. -/
def Classes.byBookIds : Declaration :=
  { Classes.declaration with
    filters :=
      [Declaration.manyFilter "hit_die", ("source", { Classes.sources with lookup := none })] }

/-- The values and the quantifiers that a request for classes comes to. -/
def Classes.selected (pairs : List (String × String)) :
    Option (List (String × FilterValue) × List (String × Quantifier)) :=
  byBookIds.build.toOption.bind fun listing =>
    (listing.readRequest ⟨[]⟩ (.ofPairs pairs)).toOption.map fun request =>
      (request.selection.values.toList, request.selection.quantifiers.toList)

/-- A request that comes to one value and one quantifier, by evaluation. -/
theorem Classes.exists_request_of_selected {pairs : List (String × String)} {key : String}
    {value : FilterValue} {q : Quantifier}
    (h : selected pairs = some ([(key, value)], [(key, q)])) :
    ∃ listing request, byBookIds.build = .ok listing
      ∧ listing.readRequest ⟨[]⟩ (.ofPairs pairs) = .ok request
      ∧ request.selection.values.get? key = some value ∧ request.selection.quantifier key = q := by
  obtain ⟨listing, request, hbuild, hread, hpair⟩ := exists_of_bind_map_toOption h
  obtain ⟨hvalues, hquantifiers⟩ := Prod.mk.inj hpair
  refine ⟨listing, request, hbuild, hread, ?_, ?_⟩
  · rw [OrderedMap.get?_eq_some_iff, hvalues]
    exact List.mem_singleton_self _
  · have hget : request.selection.quantifiers.get? key = some q := by
      rw [OrderedMap.get?_eq_some_iff, hquantifiers]
      exact List.mem_singleton_self _
    rw [Selection.quantifier, hget]
    rfl

/-- One book is asked for three times over and counts once; of the hit dice both must be there. -/
theorem quantified_filters_mean_both_books :
    (∃ listing request, Classes.byBookIds.build = .ok listing
      ∧ listing.readRequest ⟨[]⟩ (.ofPairs [("source_logic", " and "), ("source", "3,+3,5,03")])
        = .ok request
      ∧ ∃ p ∈ (request.selection.clauses listing).conditions,
        ∀ (db : Database) (s : Scope), p.holdsAt db s ↔ ∀ v ∈ [.int 3, .int 5],
          Junction.Has ⟨⟨"class_source_map", "csm"⟩, "class_id", "book_id", []⟩ db
            (s.value ⟨"c", "class_id"⟩) v)
    ∧ ∃ listing request, Classes.byBookIds.build = .ok listing
      ∧ listing.readRequest ⟨[]⟩
        (.ofPairs [("hit_die", "6"), ("hit_die_logic", " and "), ("hit_die", "8")]) = .ok request
      ∧ ∃ p ∈ (request.selection.clauses listing).having,
        ∀ (db : Database) (group : List Scope) (s : Scope),
          (∀ r ∈ group, ∀ q ∈ (request.selection.clauses listing).conditions, q.holdsAt db r) →
            (p.holds db group s ↔ ∀ v ∈ [.int 6, .int 8],
              ∃ r ∈ group, r.value ⟨"c", "hit_die"⟩ = some v) := by
  constructor
  · have hselected : Classes.selected [("source_logic", " and "), ("source", "3,+3,5,03")]
        = some ([("source", .list [.int 3, .int 5])], [("source", .all)]) := by
      decide +kernel
    obtain ⟨listing, request, hbuild, hread, hvalue, hall⟩ :=
      Classes.exists_request_of_selected hselected
    have hbuilt := Declaration.builtInto_of_build hbuild
    have hfilter : listing.filters.get? "source" = some { Classes.sources with lookup := none } := by
      rw [OrderedMap.get?_eq_some_iff, hbuilt.filters]
      exact List.mem_cons_of_mem _ List.mem_cons_self
    have hlabel : listing.entity.table.label = "c" := by
      rw [hbuilt.entity]
      rfl
    obtain ⟨p, -, hp, hholds⟩ := (quantified_filters_mean hread hfilter hvalue (by decide)).1
      ⟨⟨"class_source_map", "csm"⟩, "class_id", "book_id", []⟩ rfl (by rw [hlabel]; decide)
    rw [hall, hlabel] at hholds
    exact ⟨listing, request, hbuild, hread, p, hp, hholds⟩
  · have hselected : Classes.selected
        [("hit_die", "6"), ("hit_die_logic", " and "), ("hit_die", "8")]
        = some ([("hit_die", .list [.int 6, .int 8])], [("hit_die", .all)]) := by
      decide +kernel
    obtain ⟨listing, request, hbuild, hread, hvalue, hall⟩ :=
      Classes.exists_request_of_selected hselected
    have hbuilt := Declaration.builtInto_of_build hbuild
    have hfilter : listing.filters.get? "hit_die"
        = some (Declaration.manyFilter "hit_die").2 := by
      rw [OrderedMap.get?_eq_some_iff, hbuilt.filters]
      exact List.mem_cons_self
    have hcolumn : listing.entity.qualify (.onBase "hit_die") = ⟨"c", "hit_die"⟩ := by
      rw [hbuilt.entity]
      rfl
    obtain ⟨p, -, hp, hholds⟩ := (quantified_filters_mean hread hfilter hvalue (by decide)).2
      (.onBase "hit_die") [] rfl hall (by decide)
    rw [hcolumn] at hholds
    exact ⟨listing, request, hbuild, hread, p, hp, hholds⟩

end Compendium
