import Compendium.Proofs.Relational.Quantifiers
import Compendium.Statement.PageQuery

/-!
# Compendium — every value reaches the statement

A filter that is dropped on the way to the statement lists too much, and nobody notices. Compiling
has several places to drop one: a key that is no filter, a value that is empty, a rule that makes
nothing of its value, a search without columns. A request that was read gets to none of them.

* `Filter.IsBlock` is what the value of a filter must come to in `WHERE`, and
  `Listing.isBlock_filterClauses` says that it does, kind by kind.
* `Listing.IsSearch` is the same for the search over several columns.
* `PageQuery.Carries` puts the blocks in their order and the values they bind after one another, and
  `every_value_reaches_the_statement` is the law.
-/

namespace Compendium

/-- The predicate asks for one of the scalars in the column. -/
inductive Predicate.Matches (c : Column) : List Scalar → Predicate Column → Prop
  | eq (v : Scalar) : Matches c [v] (.eq c v)
  | isIn (vs : List Scalar) : Matches c vs (.isIn c vs)

/-! ## What a filter's value must come to -/

/-- For 3E both editions are looked for. -/
def Spells.editionsFor (vs : List Scalar) : List Scalar :=
  if vs = [.int edition3E] then [.int edition3E, .int edition35E] else vs

namespace Filter

/-- The scalars that the first predicate of a block binds: a junction that must have all of several
values also binds their number. -/
def bound (f : Filter) (q : Quantifier) (vs : List Scalar) : List Scalar :=
  match f.target with
  | .column _ _ => vs
  | .junction _ => if q = .all ∧ 1 < vs.length then vs ++ [.int (clampInt64 vs.length)] else vs
  | .substring _ => vs
  | .rule _ _ => Spells.editionsFor vs

/-- The conditions that a filter on a column always brings along. -/
def always (f : Filter) (listing : Listing) : List (Predicate Column) :=
  match f.target with
  | .column c fixed => fixedPredicates (listing.entity.label c.side) fixed
  | _ => []

/-- The column whose different values are counted in a group, and how many of them there must be: of
a filter on a column that is asked for all of several values. -/
def counted (f : Filter) (q : Quantifier) (vs : List Scalar) : Option (EntityColumn × Int64) :=
  match f.target with
  | .column c _ => if q = .all ∧ 1 < vs.length then some (c, clampInt64 vs.length) else none
  | _ => none

/-- The predicate restricts the filter's own column, or asks for a row of the filter's own junction
in which the value column is so restricted. -/
def Restricts (f : Filter) (listing : Listing) (vs : List Scalar) (p : Predicate Column) : Prop :=
  match f.target with
  | .column c _ => p.Matches (listing.entity.qualify c) vs
  | .rule c _ => p.Matches (listing.entity.qualify c) (Spells.editionsFor vs)
  | .substring c => ∃ pattern, vs = [pattern]
      ∧ p = .anyOf [.like (listing.entity.qualify c) pattern]
  | .junction j => ∃ own groupBy having, own.Matches j.value vs
      ∧ p = .rowExists j.table j.id (listing.entity.qualify (.onBase j.idColumn))
          (own :: fixedPredicates j.table.label j.fixed) groupBy having

/-- A block restricts by the scalars, binds them and ends with what the filter brings along. -/
def IsBlock (f : Filter) (listing : Listing) (q : Quantifier) (vs : List Scalar)
    (block : List (Predicate Column)) : Prop :=
  ∃ first, block = first :: f.always listing ∧ f.Restricts listing vs first
    ∧ first.fragment.values = f.bound q vs

end Filter

/-- A group has so many different values in the column. -/
def Listing.groupCondition (listing : Listing) (counted : EntityColumn × Int64) :
    Predicate Column :=
  .countDistinct (listing.entity.qualify counted.1) counted.2

/-! ## One filter -/

/-- One value is compared and several are looked up; either way all of them are bound. -/
theorem matches_matchValues (c : Column) (vs : List Scalar) :
    (matchValues c vs).Matches c vs ∧ (matchValues c vs).fragment.values = vs := by
  unfold matchValues
  split
  · exact ⟨.eq _, rfl⟩
  · exact ⟨.isIn vs, by simp [Predicate.fragment, Predicate.values_holes]⟩

/-- What a declaration fixes is written out and binds nothing. -/
theorem values_fixedPredicates (label : String) (fixed : List FixedCondition) :
    (fixedPredicates label fixed).flatMap (fun p => p.fragment.values) = [] := by
  rw [List.flatMap_eq_nil_iff]
  intro p hp
  obtain ⟨c, -, rfl⟩ := List.mem_map.1 hp
  rfl

namespace Predicate

/-- A subquery binds the values of its conditions and then those of its condition on groups. -/
theorem values_rowExists (table : Table) (inner outer : Column)
    (conditions : List (Predicate Column)) (groupBy : Option Column)
    (having : Option (Predicate Column)) :
    (rowExists table inner outer conditions groupBy having).fragment.values
      = conditions.flatMap (fun p => p.fragment.values)
        ++ (having.map fun p => p.fragment.values).getD [] := by
  cases having <;>
    simp [fragment, havingFragment, values_andEach, fragments_eq_map, List.flatMap_map]

end Predicate

namespace Listing

variable {listing : Listing} {q : Quantifier}

/-- A junction that must have all of several values binds their number after them. -/
theorem values_junctionPredicate (j : Junction) (vs : List Scalar) :
    (listing.junctionPredicate j q vs).fragment.values
      = if q = .all ∧ 1 < vs.length then vs ++ [.int (clampInt64 vs.length)] else vs := by
  have hconditions : (matchValues j.value vs :: fixedPredicates j.table.label j.fixed).flatMap
      (fun p => p.fragment.values) = vs := by
    rw [List.flatMap_cons, values_fixedPredicates, (matches_matchValues j.value vs).2,
      List.append_nil]
  unfold junctionPredicate
  rw [Predicate.values_rowExists, hconditions]
  simp only [needsAll_iff]
  split
  · rfl
  · exact List.append_nil vs

section

variable {f : Filter} {value : FilterValue}

/-- A filter on a column restricts it, and brings its fixed conditions along. -/
theorem isBlock_of_column {c : EntityColumn} {fixed : List FixedCondition}
    (htarget : f.target = .column c fixed) :
    f.IsBlock listing q value.toList (listing.filterClauses f q value).conditions := by
  obtain ⟨hmatches, hvalues⟩ := matches_matchValues (listing.entity.qualify c) value.toList
  refine ⟨matchValues (listing.entity.qualify c) value.toList, ?_, ?_, ?_⟩
  · simp only [filterClauses, htarget, Filter.always]
    rfl
  · simp only [Filter.Restricts, htarget]
    exact hmatches
  · simp only [Filter.bound, htarget]
    exact hvalues

/-- A filter on a junction asks for a row of it. -/
theorem isBlock_of_junction {j : Junction} (htarget : f.target = .junction j) :
    f.IsBlock listing q value.toList (listing.filterClauses f q value).conditions := by
  refine ⟨listing.junctionPredicate j q value.toList, ?_, ?_, ?_⟩
  · simp only [filterClauses, htarget, Filter.always]
    rfl
  · simp only [Filter.Restricts, htarget]
    exact ⟨_, _, _, (matches_matchValues j.value value.toList).1, rfl⟩
  · simp only [Filter.bound, htarget]
    exact values_junctionPredicate j value.toList

/-- A filter on substrings looks for the one pattern that it gets. -/
theorem isBlock_of_substring {c : EntityColumn} (htarget : f.target = .substring c) (v : Scalar) :
    f.IsBlock listing q [v] (listing.filterClauses f q (.single v)).conditions := by
  refine ⟨.anyOf [.like (listing.entity.qualify c) v], ?_, ?_, ?_⟩
  · simp only [filterClauses, htarget, Filter.always]
    rfl
  · simp only [Filter.Restricts, htarget]
    exact ⟨v, rfl, rfl⟩
  · simp only [Filter.bound, htarget]
    rfl

/-- The edition rule looks for the edition, or for both where 3E is asked for. -/
theorem isBlock_of_editionRule {c : EntityColumn} (htarget : f.target = .rule c Spells.editionRule)
    (v : Scalar) :
    f.IsBlock listing q [v] (listing.filterClauses f q (.single v)).conditions := by
  unfold Filter.IsBlock
  simp only [filterClauses, htarget, Filter.always, Filter.Restricts, Filter.bound,
    Spells.editionsFor, Clauses.ofConditions, Spells.editionRule, FilterValue.toList,
    List.cons.injEq, and_true]
  -- the rule looks at one thing only
  by_cases h3E : v = .int Spells.edition3E
  · rw [if_pos h3E, if_pos h3E]
    exact ⟨_, rfl, .isIn _, rfl⟩
  · rw [if_neg h3E, if_neg h3E]
    exact ⟨_, rfl, .eq v, rfl⟩

/-- What a filter accepts comes to a block. A filter that cannot take several values has just one,
which is what substrings and rules need. -/
theorem isBlock_filterClauses {key : String} {hasAlternate : Bool}
    (hallowed : f.Allowed key hasAlternate)
    (hrule : ∀ c rule, f.target = .rule c rule → rule = Spells.editionRule)
    (hfits : f.Fits value) :
    f.IsBlock listing q value.toList (listing.filterClauses f q value).conditions := by
  -- a substring or a rule would make too little of a list, but it never gets one
  have hsingle : ¬f.canTakeMany → ∃ v, value = .single v := by
    intro hcannot
    cases value with
    | single v => exact ⟨v, rfl⟩
    | list vs => exact absurd (hallowed.canTakeMany (.inl hfits.1)) hcannot
  -- one case for each kind of filter
  rcases htarget : f.target with ⟨c, fixed⟩ | j | c | ⟨c, rule⟩
  · exact isBlock_of_column htarget
  · exact isBlock_of_junction htarget
  · obtain ⟨v, rfl⟩ := hsingle (by simp [Filter.canTakeMany, htarget])
    exact isBlock_of_substring htarget v
  · obtain ⟨v, rfl⟩ := hsingle (by simp [Filter.canTakeMany, htarget])
    obtain rfl := hrule c rule htarget
    exact isBlock_of_editionRule htarget v

/-- Only a filter on a column counts in the groups. -/
theorem having_filterClauses :
    (listing.filterClauses f q value).having
      = ((f.counted q value.toList).map listing.groupCondition).toList := by
  unfold filterClauses Filter.counted
  rcases f.target with ⟨c, fixed⟩ | j | c | ⟨c, rule⟩
  · simp only [columnClauses, needsAll_iff]
    split <;> rfl
  · rfl
  · rfl
  · rfl

end

end Listing

/-- A block binds what its first predicate binds. -/
theorem Filter.IsBlock.values {f : Filter} {listing : Listing} {q : Quantifier} {vs : List Scalar}
    {block : List (Predicate Column)} (h : f.IsBlock listing q vs block) :
    block.flatMap (fun p => p.fragment.values) = f.bound q vs := by
  obtain ⟨first, rfl, -, hfirst⟩ := h
  have halways : (f.always listing).flatMap (fun p => p.fragment.values) = [] := by
    unfold always
    split
    · exact values_fixedPredicates _ _
    · rfl
  rw [List.flatMap_cons, halways, List.append_nil]
  exact hfirst

/-! ## The search over several columns -/

namespace Listing

/-- The column is that of the filter under the key. -/
def HasSearchColumn (listing : Listing) (key : String) (column : Column) : Prop :=
  ∃ f c, listing.filters.get? key = some f ∧ f.searchColumn = some c
    ∧ column = listing.entity.qualify c

/-- Each key of the search has a column like the pattern, and one such column is enough. -/
def IsSearch (listing : Listing) : Option ColumnSearch → List (Predicate Column) → Prop
  | none, ps => ps = []
  | some search, ps =>
    search.keys ≠ [] ∧ search.keys.Nodup
      ∧ ∃ columns, List.Forall₂ listing.HasSearchColumn search.keys columns
        ∧ ps = [.anyOf (columns.map (.like · (.text search.pattern)))]

variable {listing : Listing} {lookups : LookupSet} {params : QueryParams} {request : ListRequest}

theorem forall₂_searchColumns {keys : List String} (h : ∀ key ∈ keys, listing.isSearchable key) :
    List.Forall₂ listing.HasSearchColumn keys (Selection.searchColumns listing keys) := by
  induction keys with
  | nil => exact .nil
  | cons key keys ih =>
    have hkey : listing.isSearchable key := h key List.mem_cons_self
    have hkeys := ih fun k hk => h k (List.mem_cons_of_mem _ hk)
    unfold isSearchable at hkey
    rcases hfilter : listing.filters.get? key with _ | f
    · simp [hfilter] at hkey
    · rw [hfilter] at hkey
      obtain ⟨c, hc⟩ := Option.isSome_iff_exists.1 hkey
      -- the first key is a filter's, and the filter has a column to search
      have hcolumn : ((listing.filters.get? key).bind (·.searchColumn)).map listing.entity.qualify
          = some (listing.entity.qualify c) := by
        rw [hfilter, Option.bind_some, hc, Option.map_some]
      have hcons : Selection.searchColumns listing (key :: keys)
          = listing.entity.qualify c :: Selection.searchColumns listing keys :=
        List.filterMap_cons_some hcolumn
      rw [hcons]
      exact .cons ⟨f, c, hfilter, hc, rfl⟩ hkeys

/-- A search that was read is compiled: it has keys, and each of them a column. -/
theorem isSearch_searchClauses (hread : listing.readRequest lookups params = .ok request) :
    listing.IsSearch request.selection.search
      (request.selection.searchClauses listing).conditions := by
  unfold Selection.searchClauses
  rcases hsearch : request.selection.search with _ | search
  · -- without a search nothing is added
    rfl
  · obtain ⟨hne, hnodup, hsearchable⟩ := search_of_readRequest hread hsearch
    have hcolumns := forall₂_searchColumns hsearchable
    rcases hc : Selection.searchColumns listing search.keys with _ | ⟨c, cs⟩
    · -- no columns would mean no keys
      rw [hc, List.forall₂_nil_right_iff] at hcolumns
      exact absurd hcolumns hne
    · rw [hc] at hcolumns
      exact ⟨hne, hnodup, c :: cs, hcolumns, by simp only [hc]; rfl⟩

end Listing

namespace Selection

/-- What a search binds: the pattern once for each key. -/
def searchBound : Option ColumnSearch → List Scalar
  | none => []
  | some search => search.keys.map fun _ => .text search.pattern

/-- A search binds its pattern for each of its columns. -/
theorem values_search {listing : Listing} {search : Option ColumnSearch}
    {ps : List (Predicate Column)} (h : listing.IsSearch search ps) :
    ps.flatMap (fun p => p.fragment.values) = searchBound search := by
  rcases search with _ | search
  · cases h
    rfl
  · obtain ⟨-, -, columns, hcolumns, rfl⟩ := h
    -- each term binds the pattern, whatever its column
    have hterms : (Predicate.anyOf (columns.map (.like · (.text search.pattern)))).fragment.values
        = columns.flatMap fun _ => [.text search.pattern] := by
      simp [Predicate.fragment, Predicate.fragments_eq_map, Fragment.values_joined,
        List.flatMap_map]
    rw [List.flatMap_singleton, hterms, ← List.map_eq_flatMap, searchBound, List.map_const',
      List.map_const', hcolumns.length_eq]

/-- A search is about rows only. -/
theorem having_searchClauses (selection : Selection) (listing : Listing) :
    (selection.searchClauses listing).having = [] := by
  unfold searchClauses
  split
  · rfl
  · split <;> rfl

/-! ## The whole selection -/

variable {listing : Listing} {lookups : LookupSet} {params : QueryParams} {request : ListRequest}

/-- The block is that of the value's filter. -/
def IsBlockOf (selection : Selection) (listing : Listing) (e : String × FilterValue)
    (block : List (Predicate Column)) : Prop :=
  ∃ f, listing.filters.get? e.1 = some f
    ∧ f.IsBlock listing (selection.quantifier e.1) e.2.toList block

/-- What the conditions bind: the values in order, then the search. -/
def bound (selection : Selection) (listing : Listing) : List Scalar :=
  selection.values.toList.flatMap (fun e =>
      (listing.filters.get? e.1).elim [] (·.bound (selection.quantifier e.1) e.2.toList))
    ++ searchBound selection.search

/-- The columns counted in a group, in the order of the values. -/
def counted (selection : Selection) (listing : Listing) : List (EntityColumn × Int64) :=
  selection.values.toList.filterMap fun e =>
    (listing.filters.get? e.1).bind (·.counted (selection.quantifier e.1) e.2.toList)

/-- A value that was read has a filter that it fits, and that filter's clauses. -/
theorem exists_filterClauses (hread : listing.readRequest lookups params = .ok request)
    {e : String × FilterValue} (he : e ∈ request.selection.values.toList) :
    ∃ f, listing.filters.get? e.1 = some f ∧ f.Fits e.2
      ∧ request.selection.clausesAt listing e.1 e.2
        = listing.filterClauses f (request.selection.quantifier e.1) e.2 := by
  have hvalue := (OrderedMap.get?_eq_some_iff _ e.1 e.2).2 he
  obtain ⟨-, param, f, -, hfilter, hinterpret⟩ := (Listing.get?_values_iff hread).1 hvalue
  have hclauses := (Listing.clausesAt_of_readRequest hread hfilter hvalue).2.2
  exact ⟨f, hfilter, Filter.fits_of_interpret hinterpret, hclauses⟩

/-- Every value of a request has its block, in its place. -/
theorem forall₂_blocks (haccepted : listing.Accepted) (hrules : listing.UsesOnlyEditionRule)
    (hread : listing.readRequest lookups params = .ok request) :
    List.Forall₂ (request.selection.IsBlockOf listing) request.selection.values.toList
      ((request.selection.blocks listing).map (·.conditions)) := by
  rw [blocks, List.map_map, List.forall₂_map_right_iff, List.forall₂_same]
  intro e he
  obtain ⟨f, hfilter, hfits, hclauses⟩ := exists_filterClauses hread he
  refine ⟨f, hfilter, ?_⟩
  show f.IsBlock _ _ _ (request.selection.clausesAt listing e.1 e.2).conditions
  rw [hclauses]
  exact Listing.isBlock_filterClauses (haccepted.allowed hfilter)
    (fun c rule htarget => hrules e.1 f c rule hfilter htarget) hfits

/-- The conditions on groups are the counts, in the order of the values. -/
theorem having_eq_counted (hread : listing.readRequest lookups params = .ok request) :
    (request.selection.clauses listing).having
      = (request.selection.counted listing).map listing.groupCondition := by
  rw [having_clauses, having_searchClauses, List.append_nil, blocks, counted, List.flatMap_map,
    List.map_filterMap, List.filterMap_eq_flatMap_toList]
  refine List.flatMap_congr fun e he => ?_
  obtain ⟨f, hfilter, -, hclauses⟩ := exists_filterClauses hread he
  show (request.selection.clausesAt listing e.1 e.2).having = _
  rw [hclauses, Listing.having_filterClauses, hfilter]
  rfl

/-- Blocks bind the values that they are the blocks of. -/
theorem values_blocks {selection : Selection} {entries : List (String × FilterValue)}
    {blocks : List (List (Predicate Column))}
    (h : List.Forall₂ (selection.IsBlockOf listing) entries blocks) :
    blocks.flatten.flatMap (fun p => p.fragment.values)
      = entries.flatMap fun e =>
        (listing.filters.get? e.1).elim [] (·.bound (selection.quantifier e.1) e.2.toList) := by
  induction h with
  | nil => rfl
  | cons hblock _ ih =>
    obtain ⟨f, hfilter, hf⟩ := hblock
    rw [List.flatten_cons, List.flatMap_append, List.flatMap_cons, ih, hf.values, hfilter]
    rfl

end Selection

/-- What a page query must have in its statement: a block for each value of the selection, in order,
and then the search; the counts of groups; and for the values that they bind, in order, the same
again with the limit and the offset, each of them cut off at the largest signed word. -/
structure PageQuery.Carries (query : PageQuery) (listing : Listing) (request : ListRequest) :
    Prop where
  conditions : ∃ blocks search, query.select.conditions = List.flatten blocks ++ search
    ∧ List.Forall₂ (request.selection.IsBlockOf listing) request.selection.values.toList blocks
    ∧ listing.IsSearch request.selection.search search
  having : query.select.having = (request.selection.counted listing).map listing.groupCondition
  values : query.values = request.selection.bound listing
    ++ (request.selection.counted listing).map (fun (_, n) => .int n)
    ++ [.int query.select.limit, .int query.select.offset]
  limit : query.select.limit.toInt = ((min request.pagination.limit.toNat maxInt64 : Nat) : Int)
  offset : query.select.offset.toInt = ((min request.pagination.offset.toNat maxInt64 : Nat) : Int)

/-- The statement of a request carries what the request holds. -/
theorem Listing.carries_select {listing : Listing} (haccepted : listing.Accepted)
    (hrules : listing.UsesOnlyEditionRule) {lookups : LookupSet} {params : QueryParams}
    {request : ListRequest} (hread : listing.readRequest lookups params = .ok request)
    (backend : Backend) :
    PageQuery.Carries ⟨listing.select request, backend, request.alternate⟩ listing request := by
  have hblocks := Selection.forall₂_blocks haccepted hrules hread
  have hsearch := listing.isSearch_searchClauses hread
  have hhaving := Selection.having_eq_counted hread
  -- the blocks in their order, then the search
  have hconditions : (request.selection.clauses listing).conditions
      = ((request.selection.blocks listing).map (·.conditions)).flatten
        ++ (request.selection.searchClauses listing).conditions := by
    rw [Selection.conditions_clauses, List.flatMap_def]
  have hbound : (request.selection.clauses listing).conditions.flatMap (fun p => p.fragment.values)
      = request.selection.bound listing := by
    rw [hconditions, List.flatMap_append, Selection.values_blocks hblocks,
      Selection.values_search hsearch, Selection.bound]
  have hcounted : (request.selection.clauses listing).having.flatMap (fun p => p.fragment.values)
      = (request.selection.counted listing).map fun (_, n) => .int n := by
    rw [hhaving, List.flatMap_map, List.map_eq_flatMap]
    rfl
  refine ⟨⟨_, _, hconditions, hblocks, hsearch⟩, hhaving, ?_, ?_, ?_⟩
  · refine (Select.values_fragment (listing.select request) backend).trans ?_
    show (request.selection.clauses listing).conditions.flatMap _
      ++ (request.selection.clauses listing).having.flatMap _ ++ _ = _
    rw [hbound, hcounted]
  · exact toInt_clampInt64 _
  · exact toInt_clampInt64 _

/-- The values of a request are what its filters made of their parameters, and the statement carries
each of them, once and in order. -/
theorem every_value_reaches_the_statement {listing : Listing} (haccepted : listing.Accepted)
    (hrules : listing.UsesOnlyEditionRule) {lookups : LookupSet} {params : QueryParams}
    {request : ListRequest} (hread : listing.readRequest lookups params = .ok request)
    (hvalid : request.isValid) {backend : Backend} (hbackend : backend ≠ .postgres) :
    (∀ key value, (key, value) ∈ request.selection.values.toList ↔
        ∃ param f, params.get? key = some param ∧ listing.filters.get? key = some f
          ∧ f.interpret lookups key param = .ok (.value value))
      ∧ ∃ query, listing.pageQuery request backend = .ok query ∧ query.Carries listing request := by
  refine ⟨fun key value => ?_, _, Listing.pageQuery_of_isValid hvalid hbackend,
    Listing.carries_select haccepted hrules hread backend⟩
  rw [← OrderedMap.get?_eq_some_iff, Listing.get?_values_iff hread]
  constructor
  · rintro ⟨-, hfilter⟩
    exact hfilter
  · -- a filter's key is never reserved, so its parameter is read
    rintro ⟨param, f, hparam, hfilter, hinterpret⟩
    exact ⟨haccepted.notMem_reservedParams hfilter, param, f, hparam, hfilter, hinterpret⟩

/-- Spells by the ids of what they are filtered by. -/
def Spells.byIds : Declaration :=
  { declaration with
    filters := declaration.filters.map fun (key, f) => (key, { f with lookup := none }) }

/-- Taking the lookups away brings in no other rule. -/
theorem Spells.byIds_usesOnlyEditionRule {listing : Listing} (h : byIds.build = .ok listing) :
    listing.UsesOnlyEditionRule := by
  have hfilters := (Declaration.builtInto_of_build h).filters
  obtain ⟨spells, hspells⟩ := Resource.spells.exists_build
  intro key filter column rule hf htarget
  rw [OrderedMap.get?_eq_some_iff, hfilters] at hf
  obtain ⟨⟨_, f⟩, hmem, hentry⟩ := List.mem_map.1 hf
  cases hentry
  -- taking the lookups away leaves the targets as they are
  have hget : spells.filters.get? key = some f := by
    rw [OrderedMap.get?_eq_some_iff, (Declaration.builtInto_of_build hspells).filters]
    exact hmem
  exact usesOnlyEditionRule hspells key f column rule hget htarget

/-- Both of two classes, any of two schools, an edition, a name, and a search in two columns. -/
def Spells.crossed : List (String × String) :=
  [ ("classId", "1,3"), ("classId_logic", "and"), ("edition_id", "4"), ("school", "2,6,2"),
    ("mclist", "name,spell_level,name"), ("name", "ray"), ("mcfilter", "fire"),
    ("limit", "18446744073709551615"), ("page", "2") ]

/-- What of the request goes into its statement. -/
def Spells.crossedReading :
    Option (Bool × Pagination × List Scalar × List (EntityColumn × Int64)) :=
  byIds.build.toOption.bind fun listing =>
    (listing.readRequest ⟨[]⟩ (.ofPairs crossed)).toOption.map fun request =>
      (request.isValid, request.pagination, request.selection.bound listing,
        request.selection.counted listing)

/-- The classes are counted and the schools are not; the limit and the offset are cut off. -/
theorem every_value_reaches_the_statement_crossed :
    ∃ listing request query, Spells.byIds.build = .ok listing
      ∧ listing.readRequest ⟨[]⟩ (.ofPairs Spells.crossed) = .ok request
      ∧ listing.pageQuery request .mysql = .ok query ∧ query.Carries listing request
      ∧ query.values
        = [.int 1, .int 3, .int 4, .int 5, .int 2, .int 6, .text "%ray%", .text "%fire%",
            .text "%fire%"]
          ++ [.int 2] ++ [.int 9223372036854775807, .int 9223372036854775807] := by
  have hreading : Spells.crossedReading = some (true, ⟨2, 18446744073709551615⟩,
      [.int 1, .int 3, .int 4, .int 5, .int 2, .int 6, .text "%ray%", .text "%fire%",
        .text "%fire%"], [(.onAlternate "class_id", 2)]) := by
    decide +kernel
  obtain ⟨listing, hbuild, hmap⟩ := Option.bind_eq_some_iff.1 hreading
  obtain ⟨request, hread, hparts⟩ := Option.map_eq_some_iff.1 hmap
  simp only [Prod.mk.injEq] at hparts
  obtain ⟨hvalid, hpagination, hbound, hcounted⟩ := hparts
  have hbuild := toOption_eq_some_iff.1 hbuild
  have hread := toOption_eq_some_iff.1 hread
  have hbackend : Backend.mysql ≠ .postgres := by decide
  obtain ⟨-, query, hquery, hcarries⟩ := every_value_reaches_the_statement ⟨_, hbuild⟩
    (Spells.byIds_usesOnlyEditionRule hbuild) hread hvalid hbackend
  have hlimit : query.select.limit = 9223372036854775807 := by
    rw [← Int64.toInt_inj, hcarries.limit, hpagination]
    decide
  have hoffset : query.select.offset = 9223372036854775807 := by
    rw [← Int64.toInt_inj, hcarries.offset, hpagination]
    decide +kernel
  refine ⟨listing, request, query, hbuild, hread, hquery, hcarries, ?_⟩
  rw [hcarries.values, hbound, hcounted, hlimit, hoffset]
  rfl

end Compendium
