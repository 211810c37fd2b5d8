import Mathlib.Data.Multiset.Bind
import Compendium.Proofs.Relational.Joins
import Compendium.Proofs.Relational.Quantifiers
import Compendium.Proofs.Statement.Reading

/-!
# Compendium — the driving table

A query is driven by the base table, to which the alternate one is left-joined under its fixed
conditions, or by the alternate table, to which the base one is joined without any. The two sources
have different rows. A filter on a column of the alternate table evens them out: it rejects the rows
that the left join fills up with `NULL`, and it brings the fixed conditions with it.

* `Entity.pairs` are the rows that meet the conditions, each as a pair of records.
* `FromClause.filter_rows` says what a condition leaves of a source of two tables, if it rejects what
  a left join makes up.
* `driving_table_does_not_matter` puts both sources side by side.
-/

namespace Compendium

/-! ## Sources of two tables -/

/-- Records under different labels can be bound in either order. -/
theorem Scope.bind_comm (s : Scope) {l l' : String} (h : l ≠ l') (r r' : Record) :
    (s.bind l r).bind l' r' = (s.bind l' r').bind l r := by
  unfold bind
  congr 1
  funext label
  by_cases hl : label = l
  · subst hl
    simp [h]
  · simp [hl]

/-- Either side of a join condition may come first. -/
theorem sameValue_comm (a b : Option Scalar) : sameValue a b = sameValue b a := by
  rw [Bool.eq_iff_iff, sameValue_iff, sameValue_iff]
  exact exists_congr fun v => and_comm

/-- What a condition leaves of a left join if it rejects what the join makes up. -/
theorem Join.filter_extend {j : Join} {db : Database} {s : Scope} {p : Scope → Bool}
    (hnull : j.kind = .left → p (s.bind j.table.label Record.null) = false) :
    (j.extend db s).filter p = (j.found db s).filter p := by
  unfold extend
  split
  · rfl
  · rename_i hkind
    split
    · rename_i hnone
      rw [List.isEmpty_iff.1 hnone, List.filter_cons, hnull hkind]
      rfl
    · rfl

/-- The two records side by side. -/
def FromClause.row (table joined : Table) (r r' : Record) : Scope :=
  (Scope.blank.bind table.label r).bind joined.label r'

section

variable {table joined : Table} (r r' : Record)

theorem FromClause.value_row_joined (name : String) :
    (row table joined r r').value ⟨joined.label, name⟩ = r' name :=
  Scope.value_bind_self _ joined.label name r'

/-- The joined record hides nothing of the first one. -/
theorem FromClause.value_row (hne : table.label ≠ joined.label) (name : String) :
    (row table joined r r').value ⟨table.label, name⟩ = r name := by
  have houter : (row table joined r r').value ⟨table.label, name⟩
      = (Scope.blank.bind table.label r).value ⟨table.label, name⟩ :=
    Scope.value_bind_of_ne _ r' hne
  rw [houter, Scope.value_bind_self]

end

/-- What a condition leaves of a source of two tables. -/
theorem FromClause.filter_rows {table : Table} {j : Join} {db : Database} {p : Scope → Bool}
    (hnull : j.kind = .left → ∀ r, p (row table j.table r Record.null) = false) :
    ((FromClause.mk table [j]).rows db).filter p
      = (db.rows table.name).flatMap fun r =>
        ((db.rows j.table.name).filter fun r' =>
          j.fits (row table j.table r r') && p (row table j.table r r')).map
            (row table j.table r) := by
  -- one join, so nothing is done to what it makes
  have hjoin : ∀ s, joinAll db [j] s = j.extend db s := by
    intro s
    show (j.extend db s).flatMap (fun t => [t]) = _
    exact List.flatMap_singleton' _
  simp only [rows, hjoin, List.flatMap_map, List.filter_flatMap]
  congr 1
  funext r
  rw [Join.filter_extend fun hkind => hnull hkind r, Join.found, List.filter_filter,
    List.filter_map]
  congr 1
  apply List.filter_congr
  intro r' _
  exact Bool.and_comm _ _

/-- A list of some of the values is the bag of those that are taken, one by one. -/
theorem coe_map_filter {α β : Type} (p : α → Bool) (f : α → β) (xs : List α) :
    (((xs.filter p).map f : List β) : Multiset β)
      = (xs : Multiset α).bind fun x => if p x then {f x} else 0 := by
  induction xs with
  | nil => rfl
  | cons x xs ih =>
    rw [← Multiset.cons_coe, Multiset.cons_bind, ← ih, List.filter_cons]
    split
    · rw [List.map_cons, ← Multiset.cons_coe, Multiset.singleton_add]
    · rw [zero_add]

/-- The same as a bag: every record of the one table with every record of the other is taken or
not. -/
theorem FromClause.coe_map_filter_rows {table : Table} {j : Join} {db : Database}
    {p : Scope → Bool} (hnull : j.kind = .left → ∀ r, p (row table j.table r Record.null) = false)
    {β : Type} (f : Scope → β) :
    (((((FromClause.mk table [j]).rows db).filter p).map f : List β) : Multiset β)
      = (db.rows table.name : Multiset Record).bind fun r =>
        (db.rows j.table.name : Multiset Record).bind fun r' =>
          if j.fits (row table j.table r r') && p (row table j.table r r') then
            {f (row table j.table r r')} else 0 := by
  rw [filter_rows hnull, List.map_flatMap, ← Multiset.coe_bind]
  congr 1
  funext r
  rw [List.map_map, coe_map_filter]
  rfl

/-! ## Pairs of records -/

namespace Entity

/-- The records of the entity's two tables that stand side by side in rows that meet the conditions,
each pair as often as it does. -/
def pairs (entity : Entity) (db : Database) (alternate : Bool)
    (conditions : List (Predicate Column)) : Multiset (Record × Record) :=
  (((entity.fromClause alternate).rows db).filter fun s =>
      Predicate.allHold db conditions [s] s).map fun s =>
    (s.record (entity.label .base), s.record (entity.label .alternate))

variable {entity : Entity} {alt : AlternateTable} {db : Database}
  {conditions : List (Predicate Column)}
  (halt : entity.alternate = some alt) (hlabel : alt.table.label ≠ entity.table.label)

include halt

/-- In the lead, the alternate table keeps its rows as they are and the base table is looked up. -/
theorem fromClause_true :
    entity.fromClause true
      = ⟨alt.table, [⟨.inner, entity.table, ⟨alt.table.label, alt.joinColumn⟩,
          ⟨entity.table.label, alt.joinColumn⟩, []⟩]⟩ := by
  rw [fromClause, halt]
  rfl

/-- Behind the base table, the alternate one is joined under its fixed conditions. -/
theorem fromClause_false :
    entity.fromClause false
      = ⟨entity.table, [⟨.left, alt.table, ⟨entity.table.label, alt.joinColumn⟩,
          ⟨alt.table.label, alt.joinColumn⟩, alt.fixed⟩]⟩ := by
  rw [fromClause, halt]
  rfl

include hlabel

/-- A row gives back the records that it was made of. -/
theorem records_row (r r' : Record) :
    ((FromClause.row entity.table alt.table r r').record (entity.label .base),
      (FromClause.row entity.table alt.table r r').record (entity.label .alternate)) = (r, r') := by
  simp [FromClause.row, Scope.bind, label, halt, hlabel.symm]

/-- The alternate table in the lead. -/
theorem pairs_true :
    entity.pairs db true conditions
      = (db.rows alt.table.name : Multiset Record).bind fun r' =>
        (db.rows entity.table.name : Multiset Record).bind fun r =>
          if sameValue (r alt.joinColumn) (r' alt.joinColumn)
            && Predicate.allHold db conditions [FromClause.row entity.table alt.table r r']
              (FromClause.row entity.table alt.table r r') then {(r, r')} else 0 := by
  rw [pairs, fromClause_true halt, FromClause.coe_map_filter_rows fun h => by cases h]
  congr 1
  funext r'
  congr 1
  funext r
  -- it does not matter which of two labels is bound first
  have hrow : FromClause.row alt.table entity.table r' r
      = FromClause.row entity.table alt.table r r' := Scope.bind_comm _ hlabel r' r
  have hfits : (Join.mk .inner entity.table ⟨alt.table.label, alt.joinColumn⟩
      ⟨entity.table.label, alt.joinColumn⟩ []).fits (FromClause.row entity.table alt.table r r')
      = sameValue (r alt.joinColumn) (r' alt.joinColumn) := by
    rw [Join.fits, FromClause.value_row_joined, FromClause.value_row _ _ hlabel.symm,
      sameValue_comm]
    exact Bool.and_true _
  show (if Join.fits _ (FromClause.row alt.table entity.table r' r) && _ then _ else _) = _
  rw [hrow, records_row halt hlabel, hfits]

/-- The base table in the lead. The conditions reject a base record without an alternate one, and
imply the fixed conditions. -/
theorem pairs_false
    (hnull : ∀ r, Predicate.allHold db conditions
      [FromClause.row entity.table alt.table r Record.null]
      (FromClause.row entity.table alt.table r Record.null) = false)
    (hfixed : ∀ t, Predicate.allHold db conditions [t] t →
      ∀ c ∈ alt.fixed, t.value ⟨alt.table.label, c.column⟩ = some (.int c.value)) :
    entity.pairs db false conditions
      = (db.rows entity.table.name : Multiset Record).bind fun r =>
        (db.rows alt.table.name : Multiset Record).bind fun r' =>
          if sameValue (r alt.joinColumn) (r' alt.joinColumn)
            && Predicate.allHold db conditions [FromClause.row entity.table alt.table r r']
              (FromClause.row entity.table alt.table r r') then {(r, r')} else 0 := by
  rw [pairs, fromClause_false halt, FromClause.coe_map_filter_rows fun _ => hnull]
  congr 1
  funext r
  congr 1
  funext r'
  have hrecords := records_row halt hlabel r r'
  generalize ht : FromClause.row entity.table alt.table r r' = t at hrecords
  have hfits : ((Join.mk .left alt.table ⟨entity.table.label, alt.joinColumn⟩
      ⟨alt.table.label, alt.joinColumn⟩ alt.fixed).fits t && Predicate.allHold db conditions [t] t)
      = (sameValue (r alt.joinColumn) (r' alt.joinColumn)
        && Predicate.allHold db conditions [t] t) := by
    rw [Bool.eq_iff_iff, Bool.and_eq_true, Bool.and_eq_true, Join.fits_iff]
    -- the join's fixed conditions are implied by the filter's, so they can be left out
    refine and_congr_left fun hholds => ?_
    subst ht
    rw [FromClause.value_row_joined, FromClause.value_row _ _ hlabel.symm]
    exact and_iff_left (hfixed _ hholds)
  rw [hrecords, hfits]

end Entity

/-! ## Deciding filters -/

namespace Listing

variable {listing : Listing} {lookups : LookupSet} {params : QueryParams} {request : ListRequest}
  {alt : AlternateTable} {key name : String} {filter : Filter} {fixed : List FixedCondition}
  {value : FilterValue}

/-- A row that meets the conditions has a value in the column of each filter on a column, and meets
the filter's fixed conditions. -/
theorem column_of_allHold (hread : listing.readRequest lookups params = .ok request)
    (hfilter : listing.filters.get? key = some filter) {column : EntityColumn}
    (htarget : filter.target = .column column fixed)
    (hvalue : request.selection.values.get? key = some value) {db : Database} {t : Scope}
    (hholds : Predicate.allHold db (request.selection.clauses listing).conditions [t] t) :
    (∃ v, t.value (listing.entity.qualify column) = some v)
      ∧ ∀ c ∈ fixed, t.value ⟨listing.entity.label column.side, c.column⟩ = some (.int c.value) := by
  obtain ⟨-, -, hclauses⟩ := clausesAt_of_readRequest hread hfilter hvalue
  have hblock : request.selection.clausesAt listing key value
      = listing.columnClauses column fixed (request.selection.quantifier key) value.toList := by
    rw [hclauses, filterClauses, htarget]
  have hall : ∀ p ∈ (listing.columnClauses column fixed (request.selection.quantifier key)
      value.toList).conditions, p.holds db [t] t := by
    intro p hp
    rw [← hblock] at hp
    exact Predicate.allHold_iff.1 hholds p (Selection.mem_conditions_of_clausesAt hvalue hp)
  obtain ⟨hmatch, hfixed⟩ := List.forall_mem_cons.1 hall
  obtain ⟨v, -, hv⟩ := holds_matchValues_iff.1 hmatch
  exact ⟨⟨v, hv⟩, holds_fixedPredicates_iff.1 hfixed⟩

end Listing

/-- Where a value is set for a filter that switches the base table, on a column of the alternate
table and with the alternate table's fixed conditions among its own, the alternate table drives the
query that is sent; and the rows that meet the query's conditions are the same pairs of records,
each as often, as if the base table did. -/
theorem driving_table_does_not_matter {listing : Listing} {lookups : LookupSet}
    {params : QueryParams} {request : ListRequest}
    (hread : listing.readRequest lookups params = .ok request) (hvalid : request.isValid)
    {backend : Backend} (hbackend : backend ≠ .postgres) {alt : AlternateTable}
    (halt : listing.entity.alternate = some alt)
    (hlabel : alt.table.label ≠ listing.entity.table.label) {key name : String} {filter : Filter}
    (hfilter : listing.filters.get? key = some filter) (hswitches : filter.switchesBase)
    {fixed : List FixedCondition} (htarget : filter.target = .column (.onAlternate name) fixed)
    (hfixed : ∀ c ∈ alt.fixed, c ∈ fixed) {value : FilterValue}
    (hvalue : request.selection.values.get? key = some value) :
    ∃ query, listing.pageQuery request backend = .ok query ∧ query.alternate = true
      ∧ query.select.Reads backend query.sql
      ∧ query.select.source.table = (listing.entity.fromClause true).table
      ∧ (listing.entity.fromClause true).joins <+: query.select.source.joins
      ∧ ∀ db : Database, listing.entity.pairs db true query.select.conditions
        = listing.entity.pairs db false query.select.conditions := by
  have halternate : request.alternate = true :=
    Listing.alternate_of_switchesBase hread hfilter hswitches hvalue
  refine ⟨_, Listing.pageQuery_of_isValid hvalid hbackend, halternate, PageQuery.reads_sql _,
    ?_, ?_, fun db => ?_⟩
  · show (listing.entity.fromClause request.alternate).table = _
    rw [halternate]
  · show _ <+: (listing.entity.fromClause request.alternate).joins ++ _
    rw [halternate]
    exact List.prefix_append _ _
  have hside : listing.entity.label .alternate = alt.table.label := by
    rw [Entity.label, halt]
    rfl
  have hdecides : ∀ t, Predicate.allHold db (request.selection.clauses listing).conditions [t] t →
      (∃ v, t.value ⟨alt.table.label, name⟩ = some v)
        ∧ ∀ c ∈ fixed, t.value ⟨alt.table.label, c.column⟩ = some (.int c.value) := by
    intro t hholds
    have hcolumn := Listing.column_of_allHold hread hfilter htarget hvalue hholds
    rw [← hside]
    exact hcolumn
  show listing.entity.pairs db true (request.selection.clauses listing).conditions
    = listing.entity.pairs db false (request.selection.clauses listing).conditions
  -- both sources are double sums of the same pairs, in either order of the tables
  rw [Entity.pairs_true halt hlabel, Entity.pairs_false halt hlabel, Multiset.bind_bind]
  · -- there is no value where the left join has filled up with `NULL`
    intro r
    rw [Bool.eq_false_iff]
    intro hholds
    obtain ⟨⟨v, hv⟩, -⟩ := hdecides _ hholds
    rw [FromClause.value_row_joined] at hv
    cases hv
  · intro t hholds c hc
    exact (hdecides t hholds).2 c (hfixed c hc)

namespace Spells

/-- Spells by the ids of the classes that can cast them, and by the level at which they can. -/
def byClassId : Declaration :=
  { declaration with
    filters := [("classId", { classes with lookup := none }),
      ("spell_level", .onColumn (.onAlternate "spell_level"))] }

def atLevel (spell caster level display : Int64) : Record :=
  .ofCells [("spell_id", .int spell), ("class_id", .int caster), ("spell_level", .int level),
    ("display", .int display)]

/-- The first spell is told twice, the second one is told and not shown, the third one has no level
at all, and one level has no spell. -/
def levels : Database :=
  .ofTables
    [ ("spells", [1, 2, 3].map fun id => .ofCells [("spell_id", .int id)]),
      ("spell_level_map",
        [ atLevel 1 1 3 1, atLevel 1 1 3 1, atLevel 1 2 4 1, atLevel 2 1 3 0,
          .ofCells [("class_id", .int 1), ("spell_level", .int 3), ("display", .int 1)] ]) ]

/-- What tells two records of a pair apart. -/
def ids (pair : Record × Record) : Option Scalar × Option Scalar :=
  (pair.1 "spell_id", pair.2 "class_id")

end Spells

/-- The first spell is found twice, whichever table is in the lead. -/
theorem driving_table_does_not_matter_third_level :
    ∃ listing request query, Spells.byClassId.build = .ok listing
      ∧ listing.readRequest ⟨[]⟩ (.ofPairs [("spell_level", "3"), ("classId", "1")]) = .ok request
      ∧ listing.pageQuery request .sqlite = .ok query ∧ query.alternate = true
      ∧ (listing.entity.pairs Spells.levels true query.select.conditions).map Spells.ids
        = {(some (.int 1), some (.int 1)), (some (.int 1), some (.int 1))}
      ∧ (listing.entity.pairs Spells.levels false query.select.conditions).map Spells.ids
        = {(some (.int 1), some (.int 1)), (some (.int 1), some (.int 1))} := by
  have hevaluated : (Spells.byClassId.build.toOption.bind fun listing =>
      (listing.readRequest ⟨[]⟩ (.ofPairs [("spell_level", "3"), ("classId", "1")])).toOption.map
        fun request => (request.errors, request.selection.values.get? "classId",
          (listing.entity.pairs Spells.levels true
            (request.selection.clauses listing).conditions).map Spells.ids))
      = some ([], some (.list [.int 1]),
        {(some (.int 1), some (.int 1)), (some (.int 1), some (.int 1))}) := by
    decide +kernel
  obtain ⟨listing, request, hbuild, hread, hparts⟩ := exists_of_bind_map_toOption hevaluated
  obtain ⟨herrors, hparts⟩ := Prod.mk.inj hparts
  obtain ⟨hvalue, hpairs⟩ := Prod.mk.inj hparts
  have hbuilt := Declaration.builtInto_of_build hbuild
  have halt : listing.entity.alternate
      = some ⟨⟨"spell_level_map", "slm"⟩, "spell_id", [Spells.displayed]⟩ := by
    rw [hbuilt.entity]
    rfl
  have hlabel : "slm" ≠ listing.entity.table.label := by
    rw [hbuilt.entity]
    decide
  have hfilter : listing.filters.get? "classId" = some { Spells.classes with lookup := none } := by
    rw [OrderedMap.get?_eq_some_iff, hbuilt.filters]
    exact List.mem_cons_self
  have hfixed : ∀ c ∈ [Spells.displayed], c ∈ [Spells.displayed] := fun _ hc => hc
  have hvalid : request.isValid := List.isEmpty_iff.2 herrors
  have hbackend : Backend.sqlite ≠ .postgres := by decide
  obtain ⟨query, hquery, halternate, -, -, -, hsame⟩ := driving_table_does_not_matter hread hvalid
    hbackend halt hlabel hfilter rfl rfl hfixed hvalue
  have hconditions : query.select.conditions = (request.selection.clauses listing).conditions := by
    rw [Listing.pageQuery_of_isValid hvalid hbackend] at hquery
    cases hquery
    rfl
  refine ⟨listing, request, query, hbuild, hread, hquery, halternate, ?_, ?_⟩
  · rw [hconditions]
    exact hpairs
  · rw [← hsame, hconditions]
    exact hpairs

end Compendium
