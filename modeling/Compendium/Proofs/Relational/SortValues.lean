import Mathlib.Data.Finset.Max
import Compendium.Proofs.Relational.DrivingTable
import Compendium.Proofs.Statement.Scope

/-!
# Compendium — one sort value per group

A group is an entity with all that is joined to it. If the group column is a key of the base table,
the rows of a group have one record of the base table between them, and a base column has one value
in the group. A column of the alternate table may have many, and a list that is ordered by it as it
is leaves the choice to the database. `MIN` and `MAX` take the choice away.

* `SortExpr.MayTake` says which values a database may take for an expression in a group.
* `record_of_mem_joinAll` is what one join after the other leaves alone, and
  `Listing.record_eq_of_mem_groupOf` that the rows of a group share the base record.
* `leading_term_takes_one_value` is the law for all orders but those by a column of the alternate
  table as it is, and says where in the catalog there is one.
* `class_order_is_left_to_the_database` is that one.
-/

namespace Compendium

/-- No two rows of the table have the same in the column. -/
def Database.HasKey (db : Database) (table : Table) (column : String) : Prop :=
  ((db.rows table.name).map (· column)).Nodup

/-! ## Values of an expression in a group -/

/-- The least or the greatest of the values, `NULL` if there is none. -/
def Extremum.Of (extremum : Extremum) (order : LinearOrder Scalar) (vs : List Scalar) :
    Option Scalar → Prop
  | none => vs = []
  | some v => v ∈ vs ∧ ∀ w ∈ vs,
    match extremum with
    | .min => order.le v w
    | .max => order.le w v

/-- The value may be taken for the expression in the group. A column as it is has the value of any
of the rows. -/
def SortExpr.MayTake (e : SortExpr) (order : LinearOrder Scalar) (group : List Scope)
    (v : Option Scalar) : Prop :=
  match e.extremum with
  | none => ∃ s ∈ group, s.value e.column = v
  | some extremum => extremum.Of order (valuesIn group e.column) v

/-- There is one least and one greatest value, or none of either. -/
theorem Extremum.existsUnique_of (extremum : Extremum) (order : LinearOrder Scalar)
    (vs : List Scalar) : ∃! v, extremum.Of order vs v := by
  let := order
  -- without values there is only `NULL`
  rcases vs.eq_nil_or_concat with rfl | ⟨front, last, hvs⟩
  · refine ⟨none, rfl, fun v hv => ?_⟩
    cases v with
    | none => rfl
    | some v => exact absurd hv.1 List.not_mem_nil
  · have hne : vs.toFinset.Nonempty := ⟨last, by simp [hvs]⟩
    have hnil : vs ≠ [] := by simp [hvs]
    have hexists : ∃ v, extremum.Of order vs (some v) := by
      cases extremum with
      | min =>
        obtain ⟨v, hv, hmin⟩ := vs.toFinset.exists_min_image id hne
        exact ⟨v, List.mem_toFinset.1 hv, fun w hw => hmin w (List.mem_toFinset.2 hw)⟩
      | max =>
        obtain ⟨v, hv, hmax⟩ := vs.toFinset.exists_max_image id hne
        exact ⟨v, List.mem_toFinset.1 hv, fun w hw => hmax w (List.mem_toFinset.2 hw)⟩
    obtain ⟨v, hv⟩ := hexists
    refine ⟨some v, hv, fun w hw => ?_⟩
    cases w with
    | none => exact absurd hw hnil
    | some w =>
      -- each of the two is at most the other
      cases extremum with
      | min => exact congrArg some (le_antisymm (hw.2 v hv.1) (hv.2 w hw.1))
      | max => exact congrArg some (le_antisymm (hv.2 w hw.1) (hw.2 v hv.1))

section

variable {e : SortExpr} {order : LinearOrder Scalar} {group : List Scope}

/-- An extremum leaves the database no choice. -/
theorem SortExpr.existsUnique_mayTake_of_extremum (h : e.extremum.isSome) :
    ∃! v, e.MayTake order group v := by
  obtain ⟨extremum, hextremum⟩ := Option.isSome_iff_exists.1 h
  unfold MayTake
  rw [hextremum]
  exact extremum.existsUnique_of order _

/-- A column that has the same value in all rows needs no extremum. -/
theorem SortExpr.existsUnique_mayTake_of_forall (hne : group ≠ [])
    (h : ∀ s ∈ group, ∀ t ∈ group, s.value e.column = t.value e.column) :
    ∃! v, e.MayTake order group v := by
  rcases hextremum : e.extremum with _ | extremum
  · obtain ⟨s, hs⟩ := List.exists_mem_of_ne_nil group hne
    unfold MayTake
    rw [hextremum]
    refine ⟨s.value e.column, ⟨s, hs, rfl⟩, ?_⟩
    rintro v ⟨t, ht, rfl⟩
    exact h t ht s hs
  · exact existsUnique_mayTake_of_extremum (by rw [hextremum]; rfl)

end

/-! ## Records that joins leave alone -/

section

variable {db : Database} {label : String} {s t : Scope}

/-- A record stays under its label until that is bound again. -/
theorem Scope.record_bind_of_ne {label' : String} (h : label ≠ label') (record : Record) :
    (s.bind label' record).record label = s.record label := if_neg h

/-- Joins leave the record of a label alone that none of them has. -/
theorem record_of_mem_joinAll {js : List Join} (hlabel : label ∉ js.map (·.table.label))
    (h : t ∈ joinAll db js s) : t.record label = s.record label := by
  induction js generalizing s with
  | nil => rw [List.mem_singleton.1 h]
  | cons j js ih =>
    rw [List.map_cons, List.mem_cons, not_or] at hlabel
    obtain ⟨s', hs', ht⟩ := List.mem_flatMap.1 h
    obtain ⟨r, rfl⟩ := Join.exists_bind_of_mem_extend hs'
    rw [ih hlabel.2 ht, Scope.record_bind_of_ne hlabel.1]

namespace FromClause

/-- A row has a record of the table in the lead, unless a join takes its label. -/
theorem record_leading_mem {f : FromClause} (hlabel : f.table.label ∉ f.joins.map (·.table.label))
    (h : t ∈ f.rows db) : t.record f.table.label ∈ db.rows f.table.name := by
  obtain ⟨s, hs, ht⟩ := List.mem_flatMap.1 h
  obtain ⟨r, hr, rfl⟩ := List.mem_map.1 hs
  -- the record was bound first and never again
  rw [record_of_mem_joinAll hlabel ht]
  show (if f.table.label = f.table.label then r else _) ∈ _
  rw [if_pos rfl]
  exact hr

/-- The same of a table that is the first to be joined, by an inner join. -/
theorem record_joined_mem {table : Table} {j : Join} {js : List Join} (hkind : j.kind = .inner)
    (hlabel : j.table.label ∉ js.map (·.table.label))
    (h : t ∈ (FromClause.mk table (j :: js)).rows db) :
    t.record j.table.label ∈ db.rows j.table.name := by
  obtain ⟨s, -, ht⟩ := List.mem_flatMap.1 h
  obtain ⟨s', hs', ht⟩ := List.mem_flatMap.1 ht
  have hfound : s' ∈ j.found db s := by
    rw [Join.extend, hkind] at hs'
    exact hs'
  obtain ⟨r, hr, rfl, -⟩ := Join.mem_found_iff.1 hfound
  rw [record_of_mem_joinAll hlabel ht]
  show (if j.table.label = j.table.label then r else _) ∈ _
  rw [if_pos rfl]
  exact hr

end FromClause

end

/-! ## Rows of a group -/

/-- Whichever table is in the lead and whatever is joined after, a row has a record of the base
table. -/
theorem Entity.record_base_mem {entity : Entity} {alternate : Bool} {added : List Join}
    {db : Database} {t : Scope}
    (hlabels : (FromClause.mk (entity.fromClause alternate).table
      ((entity.fromClause alternate).joins ++ added)).labels.Nodup)
    (h : t ∈ (FromClause.mk (entity.fromClause alternate).table
      ((entity.fromClause alternate).joins ++ added)).rows db) :
    t.record entity.table.label ∈ db.rows entity.table.name := by
  -- the base table is in the lead, unless the alternate one is; then it is joined first
  rcases halt : entity.alternate with _ | alt
  · have hsource : entity.fromClause alternate = ⟨entity.table, []⟩ := by
      rw [fromClause, halt]
    rw [hsource] at h hlabels
    exact FromClause.record_leading_mem (List.nodup_cons.1 hlabels).1 h
  · cases alternate with
    | false =>
      rw [fromClause_false halt] at h hlabels
      exact FromClause.record_leading_mem (List.nodup_cons.1 hlabels).1 h
    | true =>
      rw [fromClause_true halt] at h hlabels
      have hjoins := (List.nodup_cons.1 hlabels).2
      exact FromClause.record_joined_mem rfl (List.nodup_cons.1 hjoins).1 h

namespace Listing

variable {listing : Listing} {request : ListRequest} {db : Database} {s t : Scope}

/-- All rows of a group have the same record of the base table. -/
theorem record_eq_of_mem_groupOf (hlabels : (listing.select request).source.labels.Nodup)
    (hkey : db.HasKey listing.entity.table listing.entity.groupColumn) {id : Option Scalar}
    (hs : s ∈ (listing.select request).groupOf db id)
    (ht : t ∈ (listing.select request).groupOf db id) :
    s.record listing.entity.table.label = t.record listing.entity.table.label := by
  obtain ⟨hsrows, hsid⟩ := Select.mem_groupOf_iff.1 hs
  obtain ⟨htrows, htid⟩ := Select.mem_groupOf_iff.1 ht
  have hsbase := Entity.record_base_mem hlabels (List.mem_filter.1 hsrows).1
  have htbase := Entity.record_base_mem hlabels (List.mem_filter.1 htrows).1
  -- both records have the group's key, and the key tells records apart
  exact List.inj_on_of_nodup_map hkey hsbase htbase (hsid.trans htid.symm)

end Listing

/-! ## The leading term -/

namespace SortSource

/-- A column of the alternate table as it is. -/
def IsBare (source : SortSource) : Prop :=
  source.column.side = .alternate ∧ source.extremum = none

instance (source : SortSource) : Decidable source.IsBare := by unfold IsBare; infer_instance

/-- What the source is in a statement for the entity. -/
def expr (source : SortSource) (entity : Entity) : SortExpr :=
  ⟨source.extremum, entity.qualify source.column⟩

/-- What is not a bare column of the alternate table is on the base table or an extremum. -/
theorem base_or_extremum {source : SortSource} (h : ¬source.IsBare) :
    source.column.side = .base ∨ source.extremum.isSome := by
  unfold IsBare at h
  rcases hside : source.column.side with _ | _
  · exact .inl rfl
  · refine .inr ?_
    rw [Option.isSome_iff_ne_none]
    exact fun hnone => h ⟨hside, hnone⟩

end SortSource

/-- What a key sorts by while the alternate table drives the query, or while it does not. -/
def SortKey.source (key : SortKey) (alternate : Bool) : SortSource :=
  if alternate then key.alternate.getD key.base else key.base

namespace Listing

variable {listing : Listing}

/-- The key that is asked for, or the default one. -/
def sortKey? (listing : Listing) (choice : SortChoice) : Option SortKey :=
  (listing.sortKeys.get? choice.key).or (listing.sortKeys.get? listing.entity.defaultSort)

/-- An accepted listing has its default key, for when the one that is asked for is unknown. -/
theorem Accepted.exists_sortKey? (h : listing.Accepted) (choice : SortChoice) :
    ∃ key, listing.sortKey? choice = some key := by
  have hdefault : (listing.sortKeys.get? listing.entity.defaultSort).isSome :=
    (OrderedMap.get?_isSome_iff _ _).2 h.defaultSort_mem
  rw [← Option.isSome_iff_exists, sortKey?, Option.isSome_or, hdefault, Bool.or_true]

/-- The key's expression leads, whether the tie-breaker follows or would only repeat it. -/
theorem exists_terms_of_sortKey? {choice : SortChoice} {key : SortKey}
    (h : listing.sortKey? choice = some key) (alternate : Bool) :
    ∃ rest, (listing.orderByChoice choice alternate).terms
      = ⟨(key.source alternate).expr listing.entity, choice.direction⟩ :: rest := by
  rw [sortKey?] at h
  unfold orderByChoice
  rw [h]
  show ∃ rest, (if ((key.source alternate).expr listing.entity).text = listing.tieBreaker.expr.text
    then _ else _) = _
  split
  · exact ⟨[], rfl⟩
  · exact ⟨[listing.tieBreaker], rfl⟩

end Listing

/-- Of all the catalog's lists only spells are sorted by a column of the alternate table as it is,
and only by their class. -/
theorem Resource.isBare_iff (r : Resource) {listing : Listing}
    (h : r.declaration.build = .ok listing) {choice : SortChoice} {key : SortKey}
    (hkey : listing.sortKey? choice = some key) (alternate : Bool) :
    (key.source alternate).IsBare ↔ r = .spells ∧ choice.key = "classId" := by
  have hbuilt := Declaration.builtInto_of_build h
  have hdeclared : ∀ k ∈ r.declaration.sortKeys, ∀ alternate,
      (k.source alternate).IsBare ↔ r = .spells ∧ k.name = "classId" := by
    cases r <;> decide
  -- a key is found under its own name
  have hfound : ∀ name k, listing.sortKeys.get? name = some k →
      k.name = name ∧ ((k.source alternate).IsBare ↔ r = .spells ∧ name = "classId") := by
    intro name k hk
    rw [OrderedMap.get?_eq_some_iff, hbuilt.sortKeys] at hk
    obtain ⟨k', hk', heq⟩ := List.mem_map.1 hk
    cases heq
    exact ⟨rfl, hdeclared k hk' alternate⟩
  rw [Listing.sortKey?, Option.or_eq_some_iff] at hkey
  rcases hkey with hkey | ⟨hnone, hkey⟩
  · exact (hfound _ _ hkey).2
  · rw [(hfound _ _ hkey).2, hbuilt.entity]
    have hdefault : ¬(r = .spells ∧ r.declaration.entity.defaultSort = "classId") := by
      cases r <;> decide
    refine iff_of_false hdefault ?_
    rintro ⟨rfl, hchoice⟩
    have hmem : "classId" ∈ listing.sortKeys.keys := by
      rw [OrderedMap.keys, hbuilt.sortKeys]
      decide
    rw [← OrderedMap.get?_isSome_iff, ← hchoice, hnone] at hmem
    cases hmem

/-- The leading term of a page query is what its sort key names. Unless that is a column of the
alternate table as it is, it is a column of the base table or an extremum, and takes one value in
every group, whichever table drives the query and whatever the database holds, if only the group
column is a key of the base table. (A database refuses a statement that gives one label to two
tables.) In the catalog the exception is the order of spells by class, and no other. -/
theorem leading_term_takes_one_value {listing : Listing} (haccepted : listing.Accepted)
    {request : ListRequest} (hvalid : request.isValid) {backend : Backend}
    (hbackend : backend ≠ .postgres) :
    ∃ query key rest, listing.pageQuery request backend = .ok query
      ∧ query.select.Reads backend query.sql
      ∧ listing.sortKey? request.sort = some key
      ∧ let source := key.source request.alternate
        let expr := source.expr listing.entity
        query.select.orderBy = ⟨expr, request.sort.direction⟩ :: rest
        ∧ (¬source.IsBare →
          (expr.column.table = listing.entity.table.label ∨ expr.extremum.isSome)
          ∧ ∀ (db : Database) (order : LinearOrder Scalar), query.select.source.labels.Nodup →
            db.HasKey listing.entity.table listing.entity.groupColumn →
            ∀ id, query.select.groupOf db id ≠ [] →
              ∃! v, expr.MayTake order (query.select.groupOf db id) v)
        ∧ ∀ r : Resource, r.declaration.build = .ok listing →
          (source.IsBare ↔ r = .spells ∧ request.sort.key = "classId") := by
  obtain ⟨key, hkey⟩ := haccepted.exists_sortKey? request.sort
  obtain ⟨rest, hterms⟩ := Listing.exists_terms_of_sortKey? hkey request.alternate
  refine ⟨_, key, rest, Listing.pageQuery_of_isValid hvalid hbackend, PageQuery.reads_sql _, hkey,
    hterms, fun hbare => ?_, fun r hbuild => r.isBare_iff hbuild hkey request.alternate⟩
  -- a base column has one value in the group; an extremum has one anyway
  rcases SortSource.base_or_extremum hbare with hside | hextremum
  · have htable : ((key.source request.alternate).expr listing.entity).column.table
        = listing.entity.table.label := by
      show listing.entity.label _ = _
      rw [hside]
      rfl
    refine ⟨.inl htable, fun db order hlabels hunique id hne => ?_⟩
    refine SortExpr.existsUnique_mayTake_of_forall hne fun s hs t ht => ?_
    rw [Scope.value, Scope.value, htable,
      Listing.record_eq_of_mem_groupOf hlabels hunique hs ht]
  · exact ⟨.inr hextremum, fun _ _ _ _ _ _ => SortExpr.existsUnique_mayTake_of_extremum hextremum⟩

/-- All spells by level, as the level map has it. -/
def Spells.byLevel : ListRequest where
  selection := .empty
  pagination := ⟨1, 20⟩
  sort := ⟨"spell_level", .ascending⟩
  errors := []
  alternate := true

/-- The first spell has two levels in three rows, and goes by the lower one. -/
theorem leading_term_takes_one_value_lowest_level :
    ∃ listing query rest, Spells.declaration.build = .ok listing
      ∧ listing.pageQuery Spells.byLevel .sqlite = .ok query
      ∧ query.select.source.labels.Nodup
      ∧ Spells.levels.HasKey listing.entity.table listing.entity.groupColumn
      ∧ let group := query.select.groupOf Spells.levels (some (.int 1))
        let lowest : SortExpr := ⟨some .min, ⟨"slm", "spell_level"⟩⟩
        query.select.orderBy = ⟨lowest, .ascending⟩ :: rest
        ∧ valuesIn group lowest.column = [.int 3, .int 3, .int 4]
        ∧ ∃! v, lowest.MayTake Arithmetic.standard.order group v := by
  obtain ⟨listing, hbuild⟩ := Resource.spells.exists_build
  have hevaluated : (Spells.declaration.build.toOption.map fun listing =>
      ((listing.select Spells.byLevel).source.labels, listing.entity,
        listing.sortKey? Spells.byLevel.sort,
        valuesIn ((listing.select Spells.byLevel).groupOf Spells.levels (some (.int 1)))
          ⟨"slm", "spell_level"⟩))
      = some (["slm", "sp", "ssm", "ssubm", "sdm", "scm", "ssm_src"], Spells.entity,
        some Spells.levelSort, [.int 3, .int 3, .int 4]) := by decide +kernel
  have hparts := eq_of_map_toOption hbuild hevaluated
  simp only [Prod.mk.injEq] at hparts
  obtain ⟨hlabels, hentity, hsort, hvalues⟩ := hparts
  have hbackend : Backend.sqlite ≠ .postgres := by decide
  have hvalid : Spells.byLevel.isValid := rfl
  obtain ⟨query, key, rest, hquery, -, hkey, hterms, htakes, -⟩ :=
    leading_term_takes_one_value ⟨_, hbuild⟩ hvalid hbackend
  cases hquery.symm.trans (Listing.pageQuery_of_isValid hvalid hbackend)
  cases hkey.symm.trans hsort
  have hnodup : (listing.select Spells.byLevel).source.labels.Nodup := by
    rw [hlabels]
    decide
  have hunique : Spells.levels.HasKey listing.entity.table listing.entity.groupColumn := by
    rw [hentity, Database.HasKey]
    decide
  have hgroup : (listing.select Spells.byLevel).groupOf Spells.levels (some (.int 1)) ≠ [] := by
    intro hnil
    rw [hnil] at hvalues
    cases hvalues
  have hone := (htakes (by decide)).2 Spells.levels Arithmetic.standard.order hnodup hunique _
    hgroup
  rw [hentity] at hterms hone
  exact ⟨listing, _, rest, hbuild, hquery, hnodup, hunique, hterms, hvalues, hone⟩

/-- Spells can be sorted by their class, a column of the level map as it is. A spell of two classes
goes by either of them, as the database likes. -/
theorem class_order_is_left_to_the_database :
    ∃ listing request query rest, Spells.declaration.build = .ok listing
      ∧ listing.readRequest ⟨[]⟩ (.ofPairs [("sort", "classId")]) = .ok request
      ∧ request.errors = [] ∧ listing.pageQuery request .sqlite = .ok query
      ∧ query.select.source.labels.Nodup
      ∧ Spells.levels.HasKey listing.entity.table listing.entity.groupColumn
      ∧ let group := query.select.groupOf Spells.levels (some (.int 1))
        let caster : SortExpr := ⟨none, ⟨"slm", "class_id"⟩⟩
        query.select.orderBy = ⟨caster, .ascending⟩ :: rest
        ∧ ∀ order, caster.MayTake order group (some (.int 1))
          ∧ caster.MayTake order group (some (.int 2)) := by
  have hevaluated : (Spells.declaration.build.toOption.bind fun listing =>
      (listing.readRequest ⟨[]⟩ (.ofPairs [("sort", "classId")])).toOption.map fun request =>
        (request.errors, (listing.select request).source.labels, (listing.select request).orderBy,
          valuesIn ((listing.select request).groupOf Spells.levels (some (.int 1)))
            ⟨"slm", "class_id"⟩))
      = some ([], ["sp", "slm", "ssm", "ssubm", "sdm", "scm", "ssm_src"],
        [⟨⟨none, ⟨"slm", "class_id"⟩⟩, .ascending⟩, ⟨⟨none, ⟨"sp", "spell_id"⟩⟩, .ascending⟩],
        [.int 1, .int 1, .int 2]) := by decide +kernel
  obtain ⟨listing, request, hbuild, hread, hparts⟩ := exists_of_bind_map_toOption hevaluated
  simp only [Prod.mk.injEq] at hparts
  obtain ⟨herrors, hlabels, hterms, hvalues⟩ := hparts
  have hentity := (Declaration.builtInto_of_build hbuild).entity
  have hvalid : request.isValid := List.isEmpty_iff.2 herrors
  have hbackend : Backend.sqlite ≠ .postgres := by decide
  have hmay : ∀ v ∈ [Scalar.int 1, .int 1, .int 2], ∀ order,
      (SortExpr.mk none ⟨"slm", "class_id"⟩).MayTake order
        ((listing.select request).groupOf Spells.levels (some (.int 1))) (some v) := by
    intro v hv order
    rw [← hvalues] at hv
    exact mem_valuesIn_iff.1 hv
  refine ⟨listing, request, _, _, hbuild, hread, herrors,
    Listing.pageQuery_of_isValid hvalid hbackend, ?_, ?_, hterms, fun order => ⟨?_, ?_⟩⟩
  · show (listing.select request).source.labels.Nodup
    rw [hlabels]
    decide
  · rw [hentity, Database.HasKey]
    decide
  · exact hmay _ (by decide) order
  · exact hmay _ (by decide) order

end Compendium
