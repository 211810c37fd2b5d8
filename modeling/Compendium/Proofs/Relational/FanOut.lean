import Mathlib.Data.List.MinMax
import Mathlib.Data.Sum.Order
import Mathlib.Data.String.Basic
import Compendium.Proofs.Listing.Accepted
import Compendium.Proofs.Relational.Joins
import Compendium.Proofs.Statement.Reading

/-!
# Compendium — aggregates and summaries beside the list

The tables that aggregates and summaries need are joined to the entity's own, each by a left join of
its own, so that an entity comes with every combination of its child rows. Neither the groups that
are listed nor the numbers that are listed with them notice: no predicate reads a joined table, and
what is counted is different values, of which a combination has none that are new.

* `SummaryKind.value` is what a summary is to make of values, and `Summary.childValues` are the
  values that its own table has for an entity. `SelectItem.number` is what the item that is selected
  comes to in a group.
* `exists_mem_joinAll_iff` says that of one table among others the joins show what it has alone.
* `joined_tables_change_no_group` puts the groups and the numbers together.
* `row_count_follows_the_first_join` is why a junction must not share its label with a summary unless
  they are joined by the same column of the base table.
-/

namespace Compendium

/-! ## Summaries -/

/-- How a database compares values, and the number that it takes a value for. -/
structure Arithmetic where
  order : LinearOrder Scalar
  number : Scalar → Int

def Arithmetic.greatest (a : Arithmetic) (vs : List Scalar) : Option Scalar :=
  letI := a.order
  vs.maximum

/-- What a summary is to make of values: how many different ones there are, or the number after the
greatest, which is 0 if there is none. -/
def SummaryKind.value (kind : SummaryKind) (a : Arithmetic) (vs : List Scalar) : Int :=
  match kind with
  | .count => vs.toFinset.card
  | .nextIndex =>
    match a.greatest vs with
    | some v => a.number v + 1
    | none => 0

section

variable {vs vs' : List Scalar} (h : ∀ v, v ∈ vs ↔ v ∈ vs')

include h

/-- The greatest value does not depend on repetitions or on the order. -/
theorem Arithmetic.greatest_congr (a : Arithmetic) : a.greatest vs = a.greatest vs' := by
  let := a.order
  -- a maximum is told by its members, which are the same
  apply Option.ext
  intro v
  show vs.maximum = (v : WithBot Scalar) ↔ vs'.maximum = (v : WithBot Scalar)
  rw [List.maximum_eq_coe_iff, List.maximum_eq_coe_iff]
  simp only [h]

/-- Repeated values count once. -/
theorem SummaryKind.value_congr (kind : SummaryKind) (a : Arithmetic) :
    kind.value a vs = kind.value a vs' := by
  cases kind with
  | count =>
    have hset : vs.toFinset = vs'.toFinset := by
      ext v
      rw [List.mem_toFinset, List.mem_toFinset, h]
    show (vs.toFinset.card : Int) = vs'.toFinset.card
    rw [hset]
  | nextIndex =>
    unfold value
    rw [a.greatest_congr h]

end

namespace Summary

/-- The column that is summed up, as statements name it. -/
def source (summary : Summary) : Column := ⟨summary.table.label, summary.column⟩

/-- The values that the summary's own table has for the entity with this key. -/
def childValues (summary : Summary) (db : Database) (key : Option Scalar) : List Scalar :=
  ((db.rows summary.table.name).filter fun r => sameValue key (r summary.parentColumn)).filterMap
    fun r => r summary.column

theorem mem_childValues_iff {summary : Summary} {db : Database} {key : Option Scalar} {v : Scalar} :
    v ∈ summary.childValues db key ↔ ∃ r ∈ db.rows summary.table.name,
      sameValue key (r summary.parentColumn) ∧ r summary.column = some v := by
  simp only [childValues, List.mem_filterMap, List.mem_filter, and_assoc]

end Summary

/-- The values in a column of a group, one for each row that has one. -/
def valuesIn (group : List Scope) (c : Column) : List Scalar := group.filterMap (·.value c)

theorem mem_valuesIn_iff {group : List Scope} {c : Column} {v : Scalar} :
    v ∈ valuesIn group c ↔ ∃ s ∈ group, s.value c = some v := by
  rw [valuesIn, List.mem_filterMap]

/-- The number that an item comes to in a group. `COUNT(DISTINCT …)` counts the different values in
its column, and `COALESCE(MAX(…) + 1, 0)` is 0 for a group without any; other items are no numbers
of the group. -/
def SelectItem.number (a : Arithmetic) (group : List Scope) : SelectItem → Option Int
  | .summary .count column _ => some (distinctValues group column).card
  | .summary .nextIndex column _ =>
    some (((a.greatest (valuesIn group column)).map fun v => a.number v + 1).getD 0)
  | .allOf _ => none
  | .sorted _ => none
  | .values _ _ _ => none
  | .totalCount => none

/-- An item makes of the values in its column what a summary of its kind is to make of them. -/
theorem SelectItem.number_summary (a : Arithmetic) (group : List Scope) (kind : SummaryKind)
    (column : Column) (label : String) :
    (summary kind column label).number a group = some (kind.value a (valuesIn group column)) := by
  cases kind with
  | count => rfl
  | nextIndex =>
    rw [number, SummaryKind.value]
    rcases a.greatest (valuesIn group column) with _ | v <;> rfl

/-! ## One joined table among others -/

/-- The joined table is named on the right, and another one on the left. -/
structure Join.Proper (j : Join) : Prop where
  right : j.right.table = j.table.label
  left : j.left.table ≠ j.table.label

/-- The record fits a row when it is put beside it. -/
def Join.Matches (j : Join) (s : Scope) (r : Record) : Prop :=
  sameValue (s.value j.left) (r j.right.name)
    ∧ ∀ c ∈ j.fixed, r c.column = some (.int c.value)

section

variable {j : Join} {db : Database} {s : Scope}

/-- Whether a record fits a row is a matter of the row's own key. -/
theorem Join.fits_bind_iff (hproper : j.Proper) (r : Record) :
    j.fits (s.bind j.table.label r) ↔ j.Matches s r := by
  have hright : (s.bind j.table.label r).value j.right = r j.right.name := by
    rw [show j.right = ⟨j.table.label, j.right.name⟩ from by rw [← hproper.right]]
    exact s.value_bind_self j.table.label j.right.name r
  rw [fits_iff, hright, Scope.value_bind_of_ne s r hproper.left, Matches]
  simp only [Scope.value_bind_self]

/-- A left join shows the values of the records that fit; a row without any shows none. -/
theorem Join.exists_mem_extend_iff (hproper : j.Proper) (hkind : j.kind = .left) {name : String}
    {v : Scalar} :
    (∃ t ∈ j.extend db s, t.value ⟨j.table.label, name⟩ = some v) ↔
      ∃ r ∈ db.rows j.table.name, j.Matches s r ∧ r name = some v := by
  have hfound : (∃ t ∈ j.found db s, t.value ⟨j.table.label, name⟩ = some v) ↔
      ∃ r ∈ db.rows j.table.name, j.Matches s r ∧ r name = some v := by
    constructor
    · rintro ⟨t, ht, hvalue⟩
      obtain ⟨r, hr, rfl, hfits⟩ := mem_found_iff.1 ht
      rw [Scope.value_bind_self] at hvalue
      exact ⟨r, hr, (fits_bind_iff hproper r).1 hfits, hvalue⟩
    · rintro ⟨r, hr, hmatches, hvalue⟩
      refine ⟨_, mem_found_iff.2 ⟨r, hr, rfl, (fits_bind_iff hproper r).2 hmatches⟩, ?_⟩
      rw [Scope.value_bind_self]
      exact hvalue
  rw [← hfound]
  unfold extend
  rw [hkind]
  show (∃ t ∈ if (j.found db s).isEmpty then _ else _, _) ↔ _
  split
  · -- nothing fits: the one row that is made shows `NULL` in the table's columns
    rename_i hnone
    rw [List.isEmpty_iff.1 hnone]
    constructor
    · rintro ⟨t, ht, hvalue⟩
      rw [List.mem_singleton.1 ht, Scope.value_bind_self] at hvalue
      cases hvalue
    · rintro ⟨t, ht, -⟩
      exact absurd ht List.not_mem_nil
  · exact Iff.rfl

/-- Of one table among others the joins show what it has alone. -/
theorem exists_mem_joinAll_iff {js : List Join} (hj : j ∈ js) (hproper : j.Proper)
    (hkinds : ∀ j' ∈ js, j'.kind = .left) (hlabels : (js.map (·.table.label)).Nodup)
    (hleft : ∀ j' ∈ js, j.left.table ≠ j'.table.label) {name : String} {v : Scalar} :
    (∃ t ∈ joinAll db js s, t.value ⟨j.table.label, name⟩ = some v) ↔
      ∃ r ∈ db.rows j.table.name, j.Matches s r ∧ r name = some v := by
  induction js generalizing s with
  | nil => exact absurd hj List.not_mem_nil
  | cons j' js ih =>
    obtain ⟨hkind, hkinds'⟩ := List.forall_mem_cons.1 hkinds
    obtain ⟨hne, hleft'⟩ := List.forall_mem_cons.1 hleft
    obtain ⟨hnew, hlabels'⟩ := List.nodup_cons.1 hlabels
    rw [joinAll, exists_mem_flatMap]
    rcases List.mem_cons.1 hj with rfl | hj
    · -- the joins that follow neither lose the record nor change it
      have hbeside : ∀ j' ∈ js, j'.Beside (·.table = j.table.label) := fun j' hj' =>
        ⟨hkinds' j' hj', fun c hc hlabel =>
          hnew (List.mem_map.2 ⟨j', hj', hlabel.symm.trans hc⟩)⟩
      rw [← Join.exists_mem_extend_iff hproper hkind]
      refine exists_congr fun s' => and_congr_right fun _ => ?_
      exact exists_mem_joinAll_value_iff hbeside rfl
    · -- a join before it leaves the row as it is for the record to match
      have hmatches : ∀ s' ∈ j'.extend db s, ∀ r, j.Matches s' r ↔ j.Matches s r := by
        intro s' hs' r
        obtain ⟨r', rfl⟩ := Join.exists_bind_of_mem_extend hs'
        rw [Join.Matches, Scope.value_bind_of_ne s r' hne, Join.Matches]
      constructor
      · rintro ⟨s', hs', ht⟩
        obtain ⟨r, hr, hr', hvalue⟩ := (ih hj hkinds' hlabels' hleft').1 ht
        exact ⟨r, hr, (hmatches s' hs' r).1 hr', hvalue⟩
      · rintro ⟨r, hr, hr', hvalue⟩
        have hextend : j'.extend db s ≠ [] := Join.extend_ne_nil hkind
        obtain ⟨s', hs'⟩ := List.exists_mem_of_ne_nil _ hextend
        refine ⟨s', hs', (ih hj hkinds' hlabels' hleft').2 ⟨r, hr, ?_, hvalue⟩⟩
        exact (hmatches s' hs' r).2 hr'

end

/-! ## The joins of a listing -/

/-- Every label that is asked for is joined. -/
theorem exists_mem_firstPerLabel {j : Join} {js : List Join} (hj : j ∈ js) :
    ∃ j' ∈ firstPerLabel js, j'.table.label = j.table.label := by
  induction js with
  | nil => exact absurd hj List.not_mem_nil
  | cons first js ih =>
    -- a join is dropped only for an earlier one with its label
    by_cases hlabel : j.table.label = first.table.label
    · exact ⟨first, List.mem_cons_self, hlabel.symm⟩
    · rcases List.mem_cons.1 hj with rfl | hj
      · exact absurd rfl hlabel
      · obtain ⟨j', hj', hsame⟩ := ih hj
        refine ⟨j', List.mem_cons_of_mem _ (List.mem_filter.2 ⟨hj', ?_⟩), hsame⟩
        rw [decide_eq_true_eq, hsame]
        exact hlabel

namespace Listing

variable {listing : Listing} {request : ListRequest}

/-- The joins that aggregates and summaries ask for. -/
def addedJoins (listing : Listing) : List Join := listing.contributions.filterMap (·.join)

/-- The statement of a request without the joins for aggregates and summaries. -/
def bareSelect (listing : Listing) (request : ListRequest) : Select :=
  { listing.select request with source := listing.entity.fromClause request.alternate }

/-- The statement is the bare one with the joins after the entity's own. -/
theorem select_eq_withJoins :
    listing.select request
      = (listing.bareSelect request).withJoins (firstPerLabel listing.addedJoins) := rfl

/-- Every junction and every summary goes by a label that neither of the entity's tables has, and
two of them go by the same label only if they are joined in the same way: the same table, by the same
columns and under the same fixed conditions. -/
structure KeepsLabelsApart (listing : Listing) : Prop where
  own : ∀ j ∈ listing.addedJoins, ∀ side, j.table.label ≠ listing.entity.label side
  shared : ∀ j ∈ listing.addedJoins, ∀ j' ∈ listing.addedJoins,
    j.table.label = j'.table.label → j = j'

def summaryJoin (listing : Listing) (summary : Summary) : Join :=
  ⟨.left, summary.table, listing.entity.group, ⟨summary.table.label, summary.parentColumn⟩, []⟩

theorem summaryJoin_mem_addedJoins {summary : Summary} (h : summary ∈ listing.summaries) :
    listing.summaryJoin summary ∈ listing.addedJoins := by
  refine List.mem_filterMap.2 ⟨listing.summaryContribution summary, ?_, rfl⟩
  exact List.mem_append_right _ (List.mem_map.2 ⟨summary, h, rfl⟩)

/-- All of them are left joins to the base table. -/
theorem onBase_of_mem_addedJoins {j : Join} (h : j ∈ listing.addedJoins) :
    j.kind = .left ∧ j.left.table = listing.entity.label .base
      ∧ j.right.table = j.table.label := by
  obtain ⟨contribution, hmem, hjoin⟩ := List.mem_filterMap.1 h
  rcases List.mem_append.1 hmem with hmem | hmem
  · obtain ⟨⟨key, filter⟩, -, hfilter⟩ := List.mem_filterMap.1 hmem
    obtain ⟨aggregate, -, rfl⟩ := Option.map_eq_some_iff.1 hfilter
    -- of the filters' targets only a junction asks for a join
    rcases htarget : filter.target with column | junction | column | column
    · simp only [aggregateSource, htarget] at hjoin
      cases hjoin
    · simp only [aggregateSource, htarget] at hjoin
      cases hjoin
      exact ⟨rfl, rfl, rfl⟩
    · simp only [aggregateSource, htarget] at hjoin
      cases hjoin
    · simp only [aggregateSource, htarget] at hjoin
      cases hjoin
  · obtain ⟨summary, -, rfl⟩ := List.mem_map.1 hmem
    cases hjoin
    exact ⟨rfl, rfl, rfl⟩

/-- A summary is selected as it is declared. -/
theorem summary_mem_items {summary : Summary} (h : summary ∈ listing.summaries) :
    .summary summary.kind summary.source summary.label ∈ (listing.select request).items := by
  have hcontribution : listing.summaryContribution summary ∈ listing.contributions :=
    List.mem_append_right _ (List.mem_map.2 ⟨summary, h, rfl⟩)
  apply List.mem_append_left
  apply List.mem_append_right
  exact List.mem_map.2 ⟨_, hcontribution, rfl⟩

section

variable (hlabels : listing.KeepsLabelsApart)

include hlabels

/-- The joins that are made have labels of their own, so they have none of the entity's columns. -/
theorem beside_of_mem_firstPerLabel :
    ∀ j ∈ firstPerLabel listing.addedJoins, j.Beside listing.entity.Owns := by
  intro j hj
  have hadded := mem_of_mem_firstPerLabel hj
  refine ⟨(onBase_of_mem_addedJoins hadded).1, ?_⟩
  rintro c ⟨side, hside⟩
  rw [hside]
  exact (hlabels.own j hadded side).symm

/-- Whoever introduces a summary's label joins its table as the summary asks for. -/
theorem summaryJoin_mem_firstPerLabel {summary : Summary} (h : summary ∈ listing.summaries) :
    listing.summaryJoin summary ∈ firstPerLabel listing.addedJoins := by
  have hadded := summaryJoin_mem_addedJoins h
  obtain ⟨j, hj, hlabel⟩ := exists_mem_firstPerLabel hadded
  rw [← hlabels.shared j (mem_of_mem_firstPerLabel hj) _ hadded hlabel]
  exact hj

/-- A row of the entity's tables shows, with all joins made, the values of the summary's own child
rows. -/
theorem exists_mem_joinAll_summary_iff {summary : Summary} (h : summary ∈ listing.summaries)
    {db : Database} {s : Scope} {v : Scalar} :
    (∃ t ∈ joinAll db (firstPerLabel listing.addedJoins) s, t.value summary.source = some v) ↔
      v ∈ summary.childValues db (s.value listing.entity.group) := by
  have hadded := summaryJoin_mem_addedJoins h
  have hbase : listing.entity.label .base ≠ summary.table.label :=
    (hlabels.own _ hadded .base).symm
  -- the labels differ from each other and from the base table's, so each join counts alone
  have hjoined : (∃ t ∈ joinAll db (firstPerLabel listing.addedJoins) s,
      t.value summary.source = some v) ↔ ∃ r ∈ db.rows summary.table.name,
        (listing.summaryJoin summary).Matches s r ∧ r summary.column = some v :=
    exists_mem_joinAll_iff (summaryJoin_mem_firstPerLabel hlabels h) ⟨rfl, hbase⟩
      (fun j hj => (beside_of_mem_firstPerLabel hlabels j hj).left)
      (nodup_firstPerLabel listing.addedJoins)
      (fun j hj => (hlabels.own j (mem_of_mem_firstPerLabel hj) .base).symm)
  -- a summary's join has no fixed conditions
  have hmatches : ∀ r, (listing.summaryJoin summary).Matches s r ↔
      sameValue (s.value listing.entity.group) (r summary.parentColumn) := fun r =>
    and_iff_left fun c hc => absurd hc List.not_mem_nil
  rw [hjoined, Summary.mem_childValues_iff]
  simp only [hmatches]

end

end Listing

/-- The joins for aggregates and summaries change neither the groups that a valid request lists nor
how many there are, and each summary has the value that its own table alone gives, for every group,
whatever else the group's rows are combined with. -/
theorem joined_tables_change_no_group {listing : Listing} {request : ListRequest}
    (hlabels : listing.KeepsLabelsApart) (hrules : listing.RulesReadTheirColumn)
    (hvalid : request.isValid) {backend : Backend} (hbackend : backend ≠ .postgres) :
    ∃ query, listing.pageQuery request backend = .ok query
      ∧ query.select.Reads backend query.sql ∧ ∀ db : Database,
      query.select.listed db = (listing.bareSelect request).listed db
      ∧ query.select.total db = (listing.bareSelect request).total db
      ∧ ∀ summary ∈ listing.summaries,
        .summary summary.kind summary.source summary.label ∈ query.select.items
        ∧ ∀ a : Arithmetic, ∀ key ∈ query.select.listed db,
          (SelectItem.summary summary.kind summary.source summary.label).number a
              (query.select.groupOf db key)
            = some (summary.kind.value a (summary.childValues db key)) := by
  have hreads := Listing.readsOnly_clauses hrules request.selection
  have hconditions : Predicate.AllReadOnly (listing.bareSelect request).conditions
      listing.entity.Owns := Predicate.allReadOnly_iff.2 hreads.conditions
  have hhaving : Predicate.AllReadOnly (listing.bareSelect request).having listing.entity.Owns :=
    Predicate.allReadOnly_iff.2 hreads.having
  have hgroup : listing.entity.Owns (listing.bareSelect request).groupBy := ⟨.base, rfl⟩
  have hjoins := Listing.beside_of_mem_firstPerLabel hlabels
  refine ⟨_, Listing.pageQuery_of_isValid hvalid hbackend, PageQuery.reads_sql _, fun db => ?_⟩
  have hlisted : (listing.select request).listed db = (listing.bareSelect request).listed db := by
    rw [Listing.select_eq_withJoins]
    exact Select.listed_withJoins hconditions hhaving hgroup hjoins
  refine ⟨hlisted, congrArg Finset.card hlisted, fun summary hsummary =>
    ⟨Listing.summary_mem_items hsummary, fun a key hkey => ?_⟩⟩
  have hrows : (listing.select request).groupOf db key
      = ((listing.bareSelect request).groupOf db key).flatMap
        (joinAll db (firstPerLabel listing.addedJoins)) := by
    rw [Listing.select_eq_withJoins]
    exact Select.groupOf_withJoins hconditions hgroup hjoins key
  -- the item's number depends only on which values the group shows
  rw [SelectItem.number_summary]
  refine congrArg some (SummaryKind.value_congr (fun v => ?_) _ a)
  show v ∈ valuesIn ((listing.select request).groupOf db key) summary.source ↔ _
  rw [mem_valuesIn_iff, hrows, exists_mem_flatMap]
  simp only [Listing.exists_mem_joinAll_summary_iff hlabels hsummary]
  -- all rows of the group have its key, and there is one
  constructor
  · rintro ⟨s, hs, hv⟩
    rw [← (Select.mem_groupOf_iff.1 hs).2]
    exact hv
  · intro hv
    rw [hlisted, Select.mem_listed_iff] at hkey
    obtain ⟨⟨s, hs, hvalue⟩, -⟩ := hkey
    refine ⟨s, Select.mem_groupOf_iff.2 ⟨hs, hvalue⟩, ?_⟩
    show v ∈ summary.childValues db (s.value (listing.bareSelect request).groupBy)
    rw [hvalue]
    exact hv

/-! ### Grids -/

/-- Numbers come before truth values and these before texts. -/
def Scalar.rank : Scalar → Int ⊕ₗ (Bool ⊕ₗ String)
  | .int n => toLex (.inl n.toInt)
  | .bool b => toLex (.inr (toLex (.inl b)))
  | .text s => toLex (.inr (toLex (.inr s)))

/-- Different scalars have different places in the order. -/
theorem Scalar.rank_injective : Function.Injective Scalar.rank := by
  intro a b h
  rcases a with m | m | m <;> rcases b with n | n | n <;> simp [rank] at h
  · rw [Int64.toInt_inj.1 h]
  · rw [h]
  · rw [h]

def Arithmetic.standard : Arithmetic where
  order := LinearOrder.lift' Scalar.rank Scalar.rank_injective
  number
    | .int n => n.toInt
    | .bool b => b.toNat
    | .text _ => 0

instance (listing : Listing) : Decidable listing.KeepsLabelsApart :=
  decidable_of_iff
    ((∀ j ∈ listing.addedJoins, j.table.label ≠ listing.entity.label .base
        ∧ j.table.label ≠ listing.entity.label .alternate)
      ∧ ∀ j ∈ listing.addedJoins, ∀ j' ∈ listing.addedJoins,
        j.table.label = j'.table.label → j = j')
    ⟨fun h => ⟨fun j hj side => match side with
        | .base => (h.1 j hj).1
        | .alternate => (h.1 j hj).2, h.2⟩,
      fun h => ⟨fun j hj => ⟨h.own j hj .base, h.own j hj .alternate⟩, h.shared⟩⟩

/-- All listings of the catalog keep labels apart. -/
theorem Resource.keepsLabelsApart (r : Resource) {listing : Listing}
    (h : r.declaration.build = .ok listing) : listing.KeepsLabelsApart := by
  have hall : (r.declaration.build.toOption.map fun listing => decide listing.KeepsLabelsApart)
      = some true := by
    cases r <;> decide +kernel
  have hdecided := eq_of_map_toOption h hall
  exact of_decide_eq_true hdecided

namespace ReferenceTables

/-- All reference tables on one page. -/
def all : ListRequest where
  selection := .empty
  pagination := ⟨1, 25⟩
  sort := ⟨"name", .ascending⟩
  errors := []
  alternate := false

/-- A grid of two rows and three columns, and one without either. -/
def grids : Database :=
  .ofTables
    [ ("reference_tables", [.ofCells [("id", .int 1)], .ofCells [("id", .int 2)]]),
      ("reference_table_rows",
        [10, 11].map fun id => .ofCells [("id", .int id), ("table_id", .int 1)]),
      ("reference_table_columns",
        [0, 1, 2].map fun index => .ofCells [("column_index", .int index), ("table_id", .int 1)]) ]

theorem rulesReadTheirColumn {listing : Listing} (h : declaration.build = .ok listing) :
    listing.RulesReadTheirColumn := by
  have hnone : (declaration.build.toOption.map fun listing =>
      listing.filters.toList.all fun e => !e.2.hasRule) = some true := by decide +kernel
  have hall := eq_of_map_toOption h hnone
  rw [List.all_eq_true] at hall
  intro key filter column rule hfilter htarget
  have hrule := hall (key, filter) ((OrderedMap.get?_eq_some_iff _ _ _).1 hfilter)
  rw [Filter.hasRule, htarget] at hrule
  cases hrule

end ReferenceTables

/-- The rows of the one grid come in six combinations with its columns; two rows and three columns
are listed all the same, and the empty grid is listed with none. -/
theorem joined_tables_change_no_group_grids :
    ∃ listing query, ReferenceTables.declaration.build = .ok listing
      ∧ listing.pageQuery ReferenceTables.all .sqlite = .ok query
      ∧ query.select.listed ReferenceTables.grids = {some (.int 1), some (.int 2)}
      ∧ query.select.total ReferenceTables.grids = 2
      ∧ let number := fun (summary : Summary) (id : Int64) =>
          (SelectItem.summary summary.kind summary.source summary.label).number .standard
            (query.select.groupOf ReferenceTables.grids (some (.int id)))
        number ReferenceTables.rowCount 1 = some 2 ∧ number ReferenceTables.columnCount 1 = some 3
          ∧ number ReferenceTables.rowCount 2 = some 0
          ∧ number ReferenceTables.columnCount 2 = some 0 := by
  obtain ⟨listing, hbuild⟩ := Resource.referenceTables.exists_build
  have hsummaries : listing.summaries = [ReferenceTables.rowCount, ReferenceTables.columnCount] :=
    (Declaration.builtInto_of_build hbuild).summaries
  have hlabels : listing.KeepsLabelsApart := Resource.referenceTables.keepsLabelsApart hbuild
  have hrules := ReferenceTables.rulesReadTheirColumn hbuild
  obtain ⟨query, hquery, -, hdb⟩ := @joined_tables_change_no_group listing ReferenceTables.all
    hlabels hrules rfl .sqlite (by decide)
  obtain ⟨hlisted, htotal, hnumbers⟩ := hdb ReferenceTables.grids
  have hgroups : (Resource.referenceTables.declaration.build.toOption.map fun listing =>
      (listing.bareSelect ReferenceTables.all).listed ReferenceTables.grids)
      = some {some (.int 1), some (.int 2)} := by decide +kernel
  have hgroups := eq_of_map_toOption hbuild hgroups
  rw [hgroups] at hlisted
  refine ⟨listing, query, hbuild, hquery, hlisted, ?_, ?_⟩
  · rw [htotal, Select.total, hgroups]
    decide
  · have hrows := (hnumbers ReferenceTables.rowCount (by rw [hsummaries]; decide)).2 .standard
    have hcolumns := (hnumbers ReferenceTables.columnCount (by rw [hsummaries]; decide)).2 .standard
    rw [hlisted] at hrows hcolumns
    refine ⟨?_, ?_, ?_, ?_⟩
    · exact (hrows _ (by decide)).trans (by decide)
    · exact (hcolumns _ (by decide)).trans (by decide)
    · exact (hrows _ (by decide)).trans (by decide)
    · exact (hcolumns _ (by decide)).trans (by decide)

namespace ReferenceTables

/-- The rows of a table, by a column that has the same name on both sides. -/
def rows : Filter :=
  { Filter.onJunction ⟨rowCount.table, rowCount.parentColumn, "id", []⟩ with
    aggregate := some ⟨none, "row_ids"⟩ }

/-- Reference tables that can be filtered by their rows, which are listed with them. -/
def byRow : Declaration :=
  { declaration with filters := declaration.filters ++ [("row", rows)] }

/-- A table that has another one's id in the column by which its rows are told. -/
def entangled : Database :=
  .ofTables
    [ ("reference_tables", [.ofCells [("id", .int 1), ("table_id", .int 2)]]),
      ("reference_table_rows",
        [ .ofCells [("id", .int 10), ("table_id", .int 1)],
          .ofCells [("id", .int 20), ("table_id", .int 2)],
          .ofCells [("id", .int 21), ("table_id", .int 2)] ]) ]

end ReferenceTables

/-- A junction and a summary share a label, with the same table, the same key column and no fixed
conditions. The junction's join comes first and compares the key with the column of that name, and
not with the one that tells the entities apart; the summary counts the two rows that this brings in,
and not its own one. -/
theorem row_count_follows_the_first_join :
    ∃ listing request query, ReferenceTables.byRow.build = .ok listing
      ∧ listing.readRequest ⟨[]⟩ (.ofPairs []) = .ok request ∧ request.errors = []
      ∧ listing.pageQuery request .sqlite = .ok query
      ∧ query.select.listed ReferenceTables.entangled = {some (.int 1)}
      ∧ (∃ filter, listing.filters.get? "row" = some filter
        ∧ filter.target = .junction ⟨ReferenceTables.rowCount.table,
          ReferenceTables.rowCount.parentColumn, "id", []⟩)
      ∧ ReferenceTables.rowCount ∈ listing.summaries
      ∧ .summary .count ReferenceTables.rowCount.source "row_count" ∈ query.select.items
      ∧ ReferenceTables.rowCount.kind.value .standard
          (ReferenceTables.rowCount.childValues ReferenceTables.entangled (some (.int 1))) = 1
      ∧ (SelectItem.summary .count ReferenceTables.rowCount.source "row_count").number .standard
          (query.select.groupOf ReferenceTables.entangled (some (.int 1))) = some 2 := by
  have hevaluated : (ReferenceTables.byRow.build.toOption.bind fun listing =>
      (listing.readRequest ⟨[]⟩ (.ofPairs [])).toOption.map fun request =>
        (request.errors, (listing.select request).listed ReferenceTables.entangled,
          valuesIn ((listing.select request).groupOf ReferenceTables.entangled (some (.int 1)))
            ReferenceTables.rowCount.source))
      = some ([], {some (.int 1)}, [.int 20, .int 21]) := by decide +kernel
  obtain ⟨listing, request, hbuild, hread, hparts⟩ := exists_of_bind_map_toOption hevaluated
  obtain ⟨herrors, hparts⟩ := Prod.mk.inj hparts
  obtain ⟨hlisted, hvalues⟩ := Prod.mk.inj hparts
  have hvalid : request.isValid := List.isEmpty_iff.2 herrors
  have hbackend : Backend.sqlite ≠ .postgres := by decide
  have hbuilt := Declaration.builtInto_of_build hbuild
  have hsummary : ReferenceTables.rowCount ∈ listing.summaries := by
    rw [hbuilt.summaries]
    exact List.mem_cons_self
  refine ⟨listing, request, _, hbuild, hread, herrors,
    Listing.pageQuery_of_isValid hvalid hbackend, hlisted, ⟨ReferenceTables.rows, ?_, rfl⟩,
    hsummary, Listing.summary_mem_items hsummary, by decide, ?_⟩
  · rw [OrderedMap.get?_eq_some_iff, hbuilt.filters]
    exact List.mem_append_right _ (List.mem_singleton_self _)
  · rw [SelectItem.number_summary]
    show some (SummaryKind.value _ _ (valuesIn ((listing.select request).groupOf _ _) _)) = _
    rw [hvalues]
    decide

end Compendium
