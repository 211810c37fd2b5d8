import Compendium.Proofs.Relational.Meaning

/-!
# Compendium — the columns that predicates read

Whether a predicate holds depends on the columns that it reads and on nothing else, so that a row may
be joined to rows of other tables without a predicate noticing.

Within a subquery the columns of its own table are at hand whatever the row outside is. A condition
on groups is within the subquery as well, unless there is no `GROUP BY`: then it may be asked of no
rows at all, and it is the row outside that stands for them.

* `Predicate.ReadsOnly` says which columns a predicate reads, by recursion on its tree.
* `Predicate.holds_congr` is the coincidence lemma: rows and groups that agree on these columns are
  all the same to the predicate.
* `Listing.readsOnly_clauses` says that a selection compiles to predicates on the entity's own tables.
-/

namespace Compendium

/-- The two rows have the same values in these columns. -/
def Scope.AgreesOn (P : Column → Prop) (s s' : Scope) : Prop :=
  ∀ c, P c → s.value c = s'.value c

/-- The two groups have the same different values in these columns. -/
def GroupsAgreeOn (P : Column → Prop) (g g' : List Scope) : Prop :=
  ∀ c, P c → distinctValues g c = distinctValues g' c

/-- The columns that a subquery over a table with this label adds. -/
def Within (label : String) (P : Column → Prop) (c : Column) : Prop := c.table = label ∨ P c

theorem Within.mono {P Q : Column → Prop} (label : String) (hsub : ∀ c, P c → Q c) :
    ∀ c, Within label P c → Within label Q c :=
  fun c hc => hc.imp_right (hsub c)

section

variable {P : Column → Prop} {s s' : Scope}

/-- Rows that agree outside agree within the subquery, where the same record is bound. -/
theorem Scope.AgreesOn.bind (h : s.AgreesOn P s') (label : String) (record : Record) :
    (s.bind label record).AgreesOn (Within label P) (s'.bind label record) := by
  intro c hc
  -- the columns of the bound table have the record's values on both sides
  by_cases hlabel : c.table = label
  · obtain ⟨table, name⟩ := c
    cases hlabel
    rw [Scope.value_bind_self, Scope.value_bind_self]
  · rw [Scope.value_bind_of_ne s record hlabel, Scope.value_bind_of_ne s' record hlabel]
    exact h c (hc.resolve_left hlabel)

/-- Rows that agree one by one agree as groups. -/
theorem groupsAgreeOn_map {α : Type} {f f' : α → Scope} {rows : List α}
    (h : ∀ r ∈ rows, (f r).AgreesOn P (f' r)) : GroupsAgreeOn P (rows.map f) (rows.map f') := by
  intro c hc
  rw [distinctValues, distinctValues, List.filterMap_map, List.filterMap_map]
  congr 1
  apply List.filterMap_congr
  intro r hr
  exact h r hr c hc

theorem Scope.AgreesOn.singleton (h : s.AgreesOn P s') : GroupsAgreeOn P [s] [s'] := by
  intro c hc
  simp only [distinctValues, List.filterMap_cons, h c hc, List.filterMap_nil]

theorem Scope.AgreesOn.mono {Q : Column → Prop} (h : s.AgreesOn Q s') (hsub : ∀ c, P c → Q c) :
    s.AgreesOn P s' := fun c hc => h c (hsub c hc)

theorem GroupsAgreeOn.mono {Q : Column → Prop} {g g' : List Scope} (h : GroupsAgreeOn Q g g')
    (hsub : ∀ c, P c → Q c) : GroupsAgreeOn P g g' := fun c hc => h c (hsub c hc)

end

namespace Predicate

/-! ## Reading -/

mutual

/-- The predicate reads no columns of the row, or of the group, but these. -/
def ReadsOnly : Predicate Column → (Column → Prop) → Prop
  | eq c _, P => P c
  | like c _, P => P c
  | isIn c _, P => P c
  | fixed c _, P => P c
  | countDistinct c _, P => P c
  | anyOf terms, P => AllReadOnly terms P
  | rowExists table inner outer conditions groupBy having, P =>
    Within table.label P inner ∧ Within table.label P outer
      ∧ AllReadOnly conditions (Within table.label P)
      ∧ match groupBy with
        | some c => Within table.label P c ∧ HavingReadsOnly having (Within table.label P)
        | none => HavingReadsOnly having P

def AllReadOnly : List (Predicate Column) → (Column → Prop) → Prop
  | [], _ => True
  | p :: ps, P => p.ReadsOnly P ∧ AllReadOnly ps P

def HavingReadsOnly : Option (Predicate Column) → (Column → Prop) → Prop
  | none, _ => True
  | some p, P => p.ReadsOnly P

end

theorem allReadOnly_iff {ps : List (Predicate Column)} {P : Column → Prop} :
    AllReadOnly ps P ↔ ∀ p ∈ ps, p.ReadsOnly P := by
  induction ps with
  | nil => simp [AllReadOnly]
  | cons p ps ih => rw [AllReadOnly, ih, List.forall_mem_cons]

mutual

/-- A predicate that reads few columns reads no others among more. -/
theorem ReadsOnly.mono : (p : Predicate Column) → {P Q : Column → Prop} → (∀ c, P c → Q c) →
    p.ReadsOnly P → p.ReadsOnly Q
  | eq c _, _, _, hsub, h => hsub c h
  | like c _, _, _, hsub, h => hsub c h
  | isIn c _, _, _, hsub, h => hsub c h
  | fixed c _, _, _, hsub, h => hsub c h
  | countDistinct c _, _, _, hsub, h => hsub c h
  | anyOf terms, _, _, hsub, h => AllReadOnly.mono terms hsub h
  | rowExists table inner outer conditions (some c) having, _, _, hsub, h => by
    obtain ⟨hinner, houter, hconditions, hgroup, hhaving⟩ := h
    have hsub := Within.mono table.label hsub
    exact ⟨hsub _ hinner, hsub _ houter, AllReadOnly.mono conditions hsub hconditions,
      hsub _ hgroup, HavingReadsOnly.mono having hsub hhaving⟩
  | rowExists table inner outer conditions none having, _, _, hsub, h => by
    obtain ⟨hinner, houter, hconditions, hhaving⟩ := h
    have hsub' := Within.mono table.label hsub
    exact ⟨hsub' _ hinner, hsub' _ houter, AllReadOnly.mono conditions hsub' hconditions,
      HavingReadsOnly.mono having hsub hhaving⟩

theorem AllReadOnly.mono : (ps : List (Predicate Column)) → {P Q : Column → Prop} →
    (∀ c, P c → Q c) → AllReadOnly ps P → AllReadOnly ps Q
  | [], _, _, _, _ => trivial
  | p :: ps, _, _, hsub, h => ⟨ReadsOnly.mono p hsub h.1, AllReadOnly.mono ps hsub h.2⟩

theorem HavingReadsOnly.mono : (having : Option (Predicate Column)) → {P Q : Column → Prop} →
    (∀ c, P c → Q c) → HavingReadsOnly having P → HavingReadsOnly having Q
  | none, _, _, _, _ => trivial
  | some p, _, _, hsub, h => ReadsOnly.mono p hsub h

end

/-! ## Coincidence -/

/-- What a subquery makes of the row outside and the records that are left of its table. -/
theorem holds_rowExists_eq {db : Database} {g : List Scope} {s : Scope} {table : Table}
    {inner outer : Column} {conditions : List (Predicate Column)} {groupBy : Option Column}
    {having : Option (Predicate Column)} :
    (rowExists table inner outer conditions groupBy having).holds db g s
      = match groupBy with
        | some c => (groupsBy c (subqueryRows db s table inner outer conditions)).any
            fun g => havingHolds db having g (g.headD s)
        | none =>
          havingHolds db having (subqueryRows db s table inner outer conditions)
              ((subqueryRows db s table inner outer conditions).headD s)
            && (having.isSome || !(subqueryRows db s table inner outer conditions).isEmpty) := by
  cases groupBy with
  | none => rw [holds]; rfl
  | some c => rw [holds]; rfl

/-- The group of each record, by a column. -/
theorem any_groupsBy_map {c : Column} {records : List Record} {f : Record → Scope}
    {P : List Scope → Bool} :
    (groupsBy c (records.map f)).any P
      = records.any fun r =>
        P ((records.filter fun r' => (f r').value c == (f r).value c).map f) := by
  simp only [groupsBy, List.any_map, List.filter_map]
  rfl

section

variable {P : Column → Prop} {db : Database} {s s' : Scope}

/-- Subqueries over a table that keep the same records keep the same groups of them. -/
theorem any_groupsBy_congr (h : s.AgreesOn P s') {label : String} {records : List Record}
    {c : Column} (hc : Within label P c) {having : Option (Predicate Column)}
    (hhaving : ∀ g g' t t', GroupsAgreeOn (Within label P) g g' → t.AgreesOn (Within label P) t' →
      havingHolds db having g t = havingHolds db having g' t') :
    (groupsBy c (records.map (s.bind label))).any (fun g => havingHolds db having g (g.headD s))
      = (groupsBy c (records.map (s'.bind label))).any
        fun g => havingHolds db having g (g.headD s') := by
  rw [any_groupsBy_map, any_groupsBy_map]
  have hvalue : ∀ r : Record, (s.bind label r).value c = (s'.bind label r).value c :=
    fun r => h.bind label r c hc
  simp only [hvalue]
  -- the groups are compared record by record
  rw [Bool.eq_iff_iff, List.any_eq_true, List.any_eq_true]
  refine exists_congr fun r => and_congr_right fun hr => ?_
  rw [← Bool.eq_iff_iff]
  generalize hgroup : (records.filter fun r' =>
    (s'.bind label r').value c == (s'.bind label r).value c) = group
  -- a record is in its own group, so the first of the group is within the subquery
  have hmem : r ∈ group := by
    rw [← hgroup]
    exact List.mem_filter.2 ⟨hr, BEq.rfl⟩
  cases group with
  | nil => exact absurd hmem List.not_mem_nil
  | cons first rest =>
    apply hhaving
    · exact groupsAgreeOn_map fun r _ => h.bind label r
    · exact h.bind label first

/-- Without `GROUP BY` all records are one group, for which the row outside stands if there are none. -/
theorem havingHolds_map_congr (h : s.AgreesOn P s') {label : String} {records : List Record}
    {having : Option (Predicate Column)}
    (hhaving : ∀ g g' t t', GroupsAgreeOn P g g' → t.AgreesOn P t' →
      havingHolds db having g t = havingHolds db having g' t') :
    havingHolds db having (records.map (s.bind label)) ((records.map (s.bind label)).headD s)
      = havingHolds db having (records.map (s'.bind label))
        ((records.map (s'.bind label)).headD s') := by
  have hreads : ∀ c, P c → Within label P c := fun c hc => .inr hc
  apply hhaving
  · exact (groupsAgreeOn_map fun r _ => h.bind label r).mono hreads
  · cases records with
    | nil => exact h
    | cons r _ => exact (h.bind label r).mono hreads

/-- A subquery keeps some records of its table, and puts each into the row outside. -/
theorem subqueryRows_eq_map {table : Table} {inner outer : Column}
    {conditions : List (Predicate Column)} :
    subqueryRows db s table inner outer conditions
      = ((db.rows table.name).filter fun r =>
          sameValue ((s.bind table.label r).value inner) ((s.bind table.label r).value outer)
            && allHold db conditions [s.bind table.label r] (s.bind table.label r)).map
        (s.bind table.label) := by
  rw [subqueryRows, List.filter_map]
  rfl

end

mutual

/-- Rows and groups that agree on the columns that a predicate reads are all the same to it. -/
theorem holds_congr {db : Database} : (p : Predicate Column) → {P : Column → Prop} →
    {g g' : List Scope} → {s s' : Scope} → p.ReadsOnly P → GroupsAgreeOn P g g' →
      s.AgreesOn P s' → p.holds db g s = p.holds db g' s'
  | eq c _, _, _, _, _, _, hreads, _, hs => by rw [holds, holds, hs c hreads]
  | like c _, _, _, _, _, _, hreads, _, hs => by rw [holds, holds, hs c hreads]
  | isIn c _, _, _, _, _, _, hreads, _, hs => by rw [holds, holds, hs c hreads]
  | fixed c _, _, _, _, _, _, hreads, _, hs => by rw [holds, holds, hs c hreads]
  | countDistinct c _, _, _, _, _, _, hreads, hg, _ => by rw [holds, holds, hg c hreads]
  | anyOf terms, _, _, _, _, _, hreads, hg, hs => by
    rw [holds, holds]
    exact anyHolds_congr terms hreads hg hs
  | rowExists table inner outer conditions groupBy having, P, _, _, s, s', hreads, hg, hs => by
    obtain ⟨hinner, houter, hconditions, hgroups⟩ := hreads
    -- the same records are left
    have hkept : ∀ r : Record,
        (sameValue ((s.bind table.label r).value inner) ((s.bind table.label r).value outer)
          && allHold db conditions [s.bind table.label r] (s.bind table.label r))
        = (sameValue ((s'.bind table.label r).value inner) ((s'.bind table.label r).value outer)
          && allHold db conditions [s'.bind table.label r] (s'.bind table.label r)) := by
      intro r
      have hrow := hs.bind table.label r
      rw [hrow inner hinner, hrow outer houter, allHold_congr conditions hconditions
        hrow.singleton hrow]
    rw [holds_rowExists_eq, holds_rowExists_eq, subqueryRows_eq_map, subqueryRows_eq_map]
    simp only [hkept]
    generalize (db.rows table.name).filter _ = records
    cases groupBy with
    | some c =>
      exact any_groupsBy_congr hs hgroups.1 fun _ _ _ _ hg hs =>
        havingHolds_congr having hgroups.2 hg hs
    | none =>
      have hempty : (records.map (s.bind table.label)).isEmpty
          = (records.map (s'.bind table.label)).isEmpty := by
        rw [List.isEmpty_map, List.isEmpty_map]
      show (havingHolds db having _ _ && _) = (havingHolds db having _ _ && _)
      rw [hempty, havingHolds_map_congr hs fun _ _ _ _ hg hs => havingHolds_congr having hgroups hg hs]

theorem anyHolds_congr {db : Database} : (ps : List (Predicate Column)) → {P : Column → Prop} →
    {g g' : List Scope} → {s s' : Scope} → AllReadOnly ps P → GroupsAgreeOn P g g' →
      s.AgreesOn P s' → anyHolds db ps g s = anyHolds db ps g' s'
  | [], _, _, _, _, _, _, _, _ => rfl
  | p :: ps, _, _, _, _, _, hreads, hg, hs => by
    rw [anyHolds, anyHolds, holds_congr p hreads.1 hg hs, anyHolds_congr ps hreads.2 hg hs]

/-- Conditions are asked one by one, so they cannot tell either. -/
theorem allHold_congr {db : Database} : (ps : List (Predicate Column)) → {P : Column → Prop} →
    {g g' : List Scope} → {s s' : Scope} → AllReadOnly ps P → GroupsAgreeOn P g g' →
      s.AgreesOn P s' → allHold db ps g s = allHold db ps g' s'
  | [], _, _, _, _, _, _, _, _ => rfl
  | p :: ps, _, _, _, _, _, hreads, hg, hs => by
    rw [allHold, allHold, holds_congr p hreads.1 hg hs, allHold_congr ps hreads.2 hg hs]

theorem havingHolds_congr {db : Database} : (having : Option (Predicate Column)) →
    {P : Column → Prop} → {g g' : List Scope} → {s s' : Scope} → HavingReadsOnly having P →
      GroupsAgreeOn P g g' → s.AgreesOn P s' →
        havingHolds db having g s = havingHolds db having g' s'
  | none, _, _, _, _, _, _, _, _ => rfl
  | some p, _, _, _, _, _, hreads, hg, hs => by
    rw [havingHolds, havingHolds, holds_congr p hreads hg hs]

end

end Predicate

/-! ## Compiled selections -/

/-- The column is in one of the entity's two tables. -/
def Entity.Owns (entity : Entity) (c : Column) : Prop := ∃ side, c.table = entity.label side

/-- Columns of an entity's tables are qualified by their labels. -/
theorem Entity.owns_qualify (entity : Entity) (column : EntityColumn) :
    entity.Owns (entity.qualify column) := ⟨column.side, rfl⟩

/-- All conditions, on rows and on groups, read these columns only. -/
structure Clauses.ReadsOnly (clauses : Clauses) (P : Column → Prop) : Prop where
  conditions : ∀ p ∈ clauses.conditions, p.ReadsOnly P
  having : ∀ p ∈ clauses.having, p.ReadsOnly P

section

variable {P : Column → Prop}

theorem Clauses.ReadsOnly.empty : Clauses.empty.ReadsOnly P :=
  ⟨fun _ hp => absurd hp List.not_mem_nil, fun _ hp => absurd hp List.not_mem_nil⟩

theorem Clauses.ReadsOnly.ofConditions {ps : List (Predicate Column)}
    (h : ∀ p ∈ ps, p.ReadsOnly P) : (Clauses.ofConditions ps).ReadsOnly P :=
  ⟨h, fun _ hp => absurd hp List.not_mem_nil⟩

/-- Clauses that are put together read what either reads. -/
theorem Clauses.ReadsOnly.append {a b : Clauses} (ha : a.ReadsOnly P) (hb : b.ReadsOnly P) :
    (a.append b).ReadsOnly P :=
  ⟨List.forall_mem_append.2 ⟨ha.conditions, hb.conditions⟩,
    List.forall_mem_append.2 ⟨ha.having, hb.having⟩⟩

/-- One value or several, it is the same column. -/
theorem readsOnly_matchValues {c : Column} (h : P c) (vs : List Scalar) :
    (matchValues c vs).ReadsOnly P := by
  unfold matchValues
  split
  · exact h
  · exact h

theorem readsOnly_fixedPredicates {label : String} (h : ∀ name, P ⟨label, name⟩)
    (fixed : List FixedCondition) : ∀ p ∈ fixedPredicates label fixed, p.ReadsOnly P := by
  intro p hp
  obtain ⟨condition, -, rfl⟩ := List.mem_map.1 hp
  exact h condition.column

end

namespace Listing

variable {listing : Listing}

/-- A rule makes predicates on the column that it is given and on no other. -/
def RulesReadTheirColumn (listing : Listing) : Prop :=
  ∀ key filter column rule, listing.filters.get? key = some filter →
    filter.target = .rule column rule → ∀ c value, ∀ p ∈ rule c value, p.ReadsOnly (· = c)

/-- A filter on a column reads its column, and its table's columns in the fixed conditions. -/
theorem readsOnly_columnClauses (column : EntityColumn) (fixed : List FixedCondition)
    (q : Quantifier) (vs : List Scalar) :
    (listing.columnClauses column fixed q vs).ReadsOnly listing.entity.Owns := by
  have howns := listing.entity.owns_qualify column
  constructor
  · refine List.forall_mem_cons.2 ⟨readsOnly_matchValues howns vs, ?_⟩
    exact readsOnly_fixedPredicates (fun _ => howns) fixed
  · intro p hp
    simp only [columnClauses] at hp
    split at hp
    · rw [List.mem_singleton.1 hp]
      exact howns
    · cases hp

/-- A subquery over a junction hides the junction's table. -/
theorem readsOnly_junctionPredicate (j : Junction) (q : Quantifier) (vs : List Scalar) :
    (listing.junctionPredicate j q vs).ReadsOnly listing.entity.Owns := by
  have hconditions : Predicate.AllReadOnly
      (matchValues j.value vs :: fixedPredicates j.table.label j.fixed)
      (Within j.table.label listing.entity.Owns) := by
    rw [Predicate.allReadOnly_iff, List.forall_mem_cons]
    exact ⟨readsOnly_matchValues (.inl rfl) vs,
      readsOnly_fixedPredicates (fun _ => .inl rfl) j.fixed⟩
  -- only the id that the subquery is tied to is read outside
  have houter := listing.entity.owns_qualify (.onBase j.idColumn)
  unfold junctionPredicate
  by_cases hall : needsAll q vs
  · rw [if_pos hall, if_pos hall]
    exact ⟨.inl rfl, .inr houter, hconditions, .inl rfl, .inl rfl⟩
  · rw [if_neg hall, if_neg hall]
    exact ⟨.inl rfl, .inr houter, hconditions, trivial⟩

/-- A substring is looked for in the filter's own column. -/
theorem readsOnly_substringPredicates (column : EntityColumn) (vs : List Scalar) :
    ∀ p ∈ listing.substringPredicates column vs, p.ReadsOnly listing.entity.Owns := by
  cases vs with
  | nil => exact fun _ hp => absurd hp List.not_mem_nil
  | cons pattern rest =>
    intro p hp
    rw [List.mem_singleton.1 hp]
    exact ⟨listing.entity.owns_qualify column, trivial⟩

/-- Each filter compiles to predicates on the entity's own tables, whatever its target. -/
theorem readsOnly_clausesAt (hrules : listing.RulesReadTheirColumn) (selection : Selection)
    (key : String) (value : FilterValue) :
    (selection.clausesAt listing key value).ReadsOnly listing.entity.Owns := by
  unfold Selection.clausesAt
  split
  · exact .empty
  · rename_i filter hfilter
    split
    · exact .empty
    · unfold filterClauses
      split
      · exact readsOnly_columnClauses _ _ _ _
      · apply Clauses.ReadsOnly.ofConditions
        refine List.forall_mem_singleton.2 ?_
        exact readsOnly_junctionPredicate _ _ _
      · exact .ofConditions (readsOnly_substringPredicates _ _)
      · -- a custom rule reads the column that it is given, which is the entity's
        rename_i column rule htarget
        apply Clauses.ReadsOnly.ofConditions
        intro p hp
        have hcolumn := hrules key filter column rule hfilter htarget _ _ p hp
        refine Predicate.ReadsOnly.mono p ?_ hcolumn
        rintro c rfl
        exact listing.entity.owns_qualify column

/-- The search looks into the columns of filters. -/
theorem readsOnly_searchClauses (selection : Selection) :
    (selection.searchClauses listing).ReadsOnly listing.entity.Owns := by
  unfold Selection.searchClauses
  split
  · exact .empty
  · rename_i search _
    split
    · exact .empty
    · apply Clauses.ReadsOnly.ofConditions
      refine List.forall_mem_singleton.2 ?_
      refine Predicate.allReadOnly_iff.2 fun q hq => ?_
      obtain ⟨c, hc, rfl⟩ := List.mem_map.1 hq
      obtain ⟨key, -, hcolumn⟩ := List.mem_filterMap.1 hc
      obtain ⟨column, -, rfl⟩ := Option.map_eq_some_iff.1 hcolumn
      exact listing.entity.owns_qualify column

/-- What a selection compiles to reads the entity's tables and nothing else. -/
theorem readsOnly_clauses (hrules : listing.RulesReadTheirColumn) (selection : Selection) :
    (selection.clauses listing).ReadsOnly listing.entity.Owns := by
  have hblocks : ∀ block ∈ selection.blocks listing, block.ReadsOnly listing.entity.Owns := by
    intro block hblock
    obtain ⟨⟨key, value⟩, -, rfl⟩ := List.mem_map.1 hblock
    exact readsOnly_clausesAt hrules selection key value
  unfold Selection.clauses
  -- the blocks are put together from the search back to the first filter
  generalize selection.blocks listing = blocks at hblocks
  induction blocks with
  | nil => exact readsOnly_searchClauses selection
  | cons block blocks ih =>
    obtain ⟨hblock, hblocks⟩ := List.forall_mem_cons.1 hblocks
    exact hblock.append (ih hblocks)

end Listing

end Compendium
