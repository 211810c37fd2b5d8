import Compendium.Proofs.Relational.FanOut

/-!
# Compendium — the scope of columns

A column goes by the label of its table, and a label means something only where a table has been
introduced under it: by the `FROM` clause or by a join, and in a subquery by the subquery itself.

* `Select.mentions` are all columns that a statement names, in subqueries and outside of them, and
  `Mention.InScope` says that a column is named where its label means something.
* `Join.InOrder` says that each join is made by columns that the tables before it or its own have.
* `Selection.sees_clauses` says that a selection compiles to predicates on the entity's own tables, whose
  subqueries reach no further than the base table.
* `pageQuery_names_columns_in_scope` is the law for all clauses of a page query.
-/

namespace Compendium

/-! ## Columns and where they are named -/

/-- A column as a statement names it. In a subquery, `within` is the label of the subquery's table. -/
structure Mention where
  column : Column
  within : Option String
deriving DecidableEq, Repr

namespace Mention

/-- Outside of subqueries any of `labels` will do; a subquery has its own label and `base`. -/
def InScope (m : Mention) (labels : List String) (base : String) : Prop :=
  match m.within with
  | none => m.column.table ∈ labels
  | some label => m.column.table = label ∨ m.column.table = base

theorem InScope.mono {m : Mention} {labels labels' : List String} {base : String}
    (hsub : labels ⊆ labels') (h : m.InScope labels base) : m.InScope labels' base := by
  unfold InScope at h ⊢
  split
  · rename_i hwithin
    rw [hwithin] at h
    exact hsub h
  · rename_i label hwithin
    rw [hwithin] at h
    exact h

end Mention

namespace Predicate

mutual

/-- The columns that a predicate names where it stands. -/
def mentions (within : Option String) : Predicate Column → List Mention
  | eq c _ => [⟨c, within⟩]
  | like c _ => [⟨c, within⟩]
  | isIn c _ => [⟨c, within⟩]
  | fixed c _ => [⟨c, within⟩]
  | countDistinct c _ => [⟨c, within⟩]
  | anyOf terms => allMentions within terms
  | rowExists table inner outer conditions groupBy having =>
    let own := some table.label
    ⟨inner, own⟩ :: ⟨outer, own⟩ :: allMentions own conditions
      ++ groupBy.toList.map (⟨·, own⟩) ++ havingMentions own having

def allMentions (within : Option String) : List (Predicate Column) → List Mention
  | [] => []
  | p :: ps => p.mentions within ++ allMentions within ps

def havingMentions (within : Option String) : Option (Predicate Column) → List Mention
  | none => []
  | some p => p.mentions within

end

theorem mem_allMentions_iff {within : Option String} {ps : List (Predicate Column)} {m : Mention} :
    m ∈ allMentions within ps ↔ ∃ p ∈ ps, m ∈ p.mentions within := by
  induction ps with
  | nil => simp [allMentions]
  | cons p ps ih => simp [allMentions, ih]

end Predicate

def SelectItem.columns : SelectItem → List Column
  | allOf label => [⟨label, "*"⟩]
  | sorted expr => [expr.expr.column]
  | values column paired _ => column :: paired.toList
  | summary _ column _ => [column]
  | totalCount => []

/-- The columns that a join is made by. -/
def Join.columns (j : Join) : List Column :=
  j.left :: j.right :: j.fixed.map fun c => ⟨j.table.label, c.column⟩

/-- The labels that a source introduces. -/
def FromClause.labels (f : FromClause) : List String := f.table.label :: f.joins.map (·.table.label)

/-- Every column that a statement names, clause by clause. -/
def Select.mentions (s : Select) : List Mention :=
  (s.items.flatMap (·.columns)).map (⟨·, none⟩)
    ++ (s.source.joins.flatMap (·.columns)).map (⟨·, none⟩)
    ++ Predicate.allMentions none s.conditions
    ++ ⟨s.groupBy, none⟩ :: Predicate.allMentions none s.having
    ++ s.orderBy.map (⟨·.expr.column, none⟩)

namespace Join

/-- Each join is made by columns of its own table and of those that were introduced before. -/
def InOrder : List String → List Join → Prop
  | _, [] => True
  | labels, j :: js =>
    (∀ c ∈ j.columns, c.table ∈ labels ++ [j.table.label]) ∧ InOrder (labels ++ [j.table.label]) js

variable {labels : List String} {js js' : List Join}

/-- Joins are in order if the first ones are and the others are behind them. -/
theorem inOrder_append :
    InOrder labels (js ++ js') ↔ InOrder labels js ∧ InOrder (labels ++ js.map (·.table.label)) js' := by
  induction js generalizing labels with
  | nil => simp [InOrder]
  | cons j js ih => simp [InOrder, ih, and_assoc]

/-- What joins in order are made by, all of them together introduce. -/
theorem InOrder.columns (h : InOrder labels js) :
    ∀ j ∈ js, ∀ c ∈ j.columns, c.table ∈ labels ++ js.map (·.table.label) := by
  intro j hj c hc
  obtain ⟨before, after, rfl⟩ := List.append_of_mem hj
  have hmem := (inOrder_append.1 h).2.1 c hc
  simp only [List.map_append, List.map_cons, List.mem_append, List.mem_cons] at hmem ⊢
  tauto

/-- Joins to one table can be made in any order once the table is there. -/
theorem inOrder_of_columns {base : String} (hbase : base ∈ labels)
    (h : ∀ j ∈ js, ∀ c ∈ j.columns, c.table = base ∨ c.table = j.table.label) :
    InOrder labels js := by
  -- the base table stays introduced as more tables come
  induction js generalizing labels with
  | nil => trivial
  | cons j js ih =>
    obtain ⟨hj, hjs⟩ := List.forall_mem_cons.1 h
    refine ⟨fun c hc => ?_, ih (List.mem_append_left _ hbase) hjs⟩
    rcases hj c hc with htable | htable
    · rw [htable]
      exact List.mem_append_left _ hbase
    · rw [htable]
      exact List.mem_append_right _ (List.mem_singleton_self _)

end Join

/-! ## The entity's own tables -/

namespace Entity

variable {entity : Entity}

/-- The labels of the two sides. -/
def labels (entity : Entity) : List String := [entity.label .base, entity.label .alternate]

/-- The column is one of the entity's own, or within a subquery one of that or of the base table. -/
def Sees (entity : Entity) (m : Mention) : Prop := m.InScope entity.labels entity.table.label

theorem label_mem_labels (side : Side) : entity.label side ∈ entity.labels := by
  cases side <;> simp [labels]

theorem sees_of_label {side : Side} {c : Column} (h : c.table = entity.label side) :
    entity.Sees ⟨c, none⟩ := by
  show c.table ∈ entity.labels
  rw [h]
  exact label_mem_labels side

/-- Whichever table drives the query, both are introduced. -/
theorem labels_subset_fromClause (alternate : Bool) :
    entity.labels ⊆ (entity.fromClause alternate).labels := by
  unfold labels label fromClause
  rcases entity.alternate with _ | alt
  · simp [FromClause.labels]
  · cases alternate <;> simp [FromClause.labels]

/-- The second table is joined by columns of both. -/
theorem inOrder_fromClause (alternate : Bool) :
    Join.InOrder [(entity.fromClause alternate).table.label] (entity.fromClause alternate).joins := by
  unfold fromClause
  rcases entity.alternate with _ | alt
  · trivial
  · cases alternate <;> simp [Join.InOrder, Join.columns]

end Entity

/-! ## Conditions -/

/-- One value or several, the column is named once. -/
theorem mentions_matchValues (within : Option String) (c : Column) (vs : List Scalar) :
    (matchValues c vs).mentions within = [⟨c, within⟩] := by
  unfold matchValues
  split <;> rfl

/-- Fixed conditions name columns of the table they are on. -/
theorem mem_mentions_fixedPredicates {within : Option String} {label : String}
    {fixed : List FixedCondition} {p : Predicate Column} (hp : p ∈ fixedPredicates label fixed)
    {m : Mention} (hm : m ∈ p.mentions within) : m.within = within ∧ m.column.table = label := by
  obtain ⟨condition, -, rfl⟩ := List.mem_map.1 hp
  rw [Predicate.mentions, List.mem_singleton] at hm
  subst hm
  exact ⟨rfl, rfl⟩

/-- Its conditions on rows and those on groups. -/
def Clauses.predicates (clauses : Clauses) : List (Predicate Column) :=
  clauses.conditions ++ clauses.having

namespace Listing

variable {listing : Listing}

/-- Outside of subqueries a rule names the column that it is given and no other; in a subquery of its
own it names columns of the subquery's table or of the base table. -/
def RulesKeepToTheirColumn (listing : Listing) : Prop :=
  ∀ key filter column rule, listing.filters.get? key = some filter →
    filter.target = .rule column rule → ∀ value, ∀ p ∈ rule (listing.entity.qualify column) value,
      ∀ m ∈ p.mentions none,
        match m.within with
        | none => m.column = listing.entity.qualify column
        | some label => m.column.table = label ∨ m.column.table = listing.entity.table.label

/-- A filter on a column names it, and in fixed conditions others of its table. -/
theorem sees_columnClauses (column : EntityColumn) (fixed : List FixedCondition) (q : Quantifier)
    (vs : List Scalar) : ∀ p ∈ (listing.columnClauses column fixed q vs).predicates,
      ∀ m ∈ p.mentions none, listing.entity.Sees m := by
  have hqualified : listing.entity.Sees ⟨listing.entity.qualify column, none⟩ :=
    Entity.sees_of_label rfl
  intro p hp m hm
  rcases List.mem_append.1 hp with hp | hp
  · rcases List.mem_cons.1 hp with rfl | hp
    · rw [mentions_matchValues, List.mem_singleton] at hm
      subst hm
      exact hqualified
    · obtain ⟨hwithin, htable⟩ := mem_mentions_fixedPredicates hp hm
      obtain ⟨c, within⟩ := m
      subst hwithin
      exact Entity.sees_of_label htable
  · simp only [columnClauses] at hp
    split at hp
    · rw [List.mem_singleton.1 hp, hasAll, Predicate.mentions, List.mem_singleton] at hm
      subst hm
      exact hqualified
    · cases hp

/-- A subquery over a junction names the junction's columns and the base table's. -/
theorem sees_junctionPredicate (j : Junction) (q : Quantifier) (vs : List Scalar) :
    ∀ m ∈ (listing.junctionPredicate j q vs).mentions none, listing.entity.Sees m := by
  have hown : ∀ m : Mention, m.within = some j.table.label → m.column.table = j.table.label →
      listing.entity.Sees m := by
    rintro ⟨c, within⟩ rfl htable
    exact .inl htable
  intro m hm
  unfold junctionPredicate at hm
  rw [Predicate.mentions] at hm
  simp only [List.cons_append, List.mem_cons, List.mem_append] at hm
  -- the two ids, the conditions, the grouping, and the count
  rcases hm with rfl | rfl | (hm | hm) | hm
  · exact .inl rfl
  · exact .inr rfl
  · obtain ⟨p, hp, hm⟩ := Predicate.mem_allMentions_iff.1 hm
    rcases List.mem_cons.1 hp with rfl | hp
    · rw [mentions_matchValues, List.mem_singleton] at hm
      subst hm
      exact .inl rfl
    · obtain ⟨hwithin, htable⟩ := mem_mentions_fixedPredicates hp hm
      exact hown m hwithin htable
  · -- the rows are grouped by the junction's id, if they are
    split at hm
    · rw [Option.toList_some, List.map_singleton, List.mem_singleton] at hm
      subst hm
      exact .inl rfl
    · cases hm
  · split at hm
    · rw [Predicate.havingMentions, hasAll, Predicate.mentions, List.mem_singleton] at hm
      subst hm
      exact .inl rfl
    · cases hm

/-- A pattern is looked for in a column of the entity. -/
theorem sees_like (column : EntityColumn) (pattern : Scalar) :
    ∀ m ∈ (Predicate.like (listing.entity.qualify column) pattern).mentions none,
      listing.entity.Sees m := by
  intro m hm
  rw [Predicate.mentions, List.mem_singleton] at hm
  subst hm
  exact Entity.sees_of_label rfl

/-- Each kind of filter names no more than the entity's own tables. -/
theorem sees_filterClauses (hrules : listing.RulesKeepToTheirColumn) {key : String}
    {filter : Filter} (hfilter : listing.filters.get? key = some filter) (q : Quantifier)
    (value : FilterValue) : ∀ p ∈ (listing.filterClauses filter q value).predicates,
      ∀ m ∈ p.mentions none, listing.entity.Sees m := by
  unfold filterClauses
  split
  · exact sees_columnClauses _ _ _ _
  · refine List.forall_mem_singleton.2 ?_
    exact sees_junctionPredicate _ _ _
  · rename_i column _
    rcases value.toList with _ | ⟨pattern, rest⟩
    · exact fun _ hp => absurd hp List.not_mem_nil
    · refine List.forall_mem_singleton.2 fun m hm => ?_
      rw [Predicate.mentions, Predicate.mem_allMentions_iff] at hm
      obtain ⟨p, hp, hm⟩ := hm
      rw [List.mem_singleton.1 hp] at hm
      exact sees_like column pattern m hm
  · -- a rule may have a subquery of its own, which names the subquery's or the base table
    rename_i column rule htarget
    intro p hp ⟨c, within⟩ hm
    rw [Clauses.predicates, Clauses.ofConditions, List.append_nil] at hp
    have hkeeps := hrules key filter column rule hfilter htarget value p hp _ hm
    cases within with
    | none =>
      have hcolumn : c = listing.entity.qualify column := hkeeps
      exact Entity.sees_of_label (congrArg Column.table hcolumn)
    | some label => exact hkeeps

end Listing

namespace Selection

variable {listing : Listing}

theorem sees_clausesAt (hrules : listing.RulesKeepToTheirColumn) (selection : Selection)
    (key : String) (value : FilterValue) : ∀ p ∈ (selection.clausesAt listing key value).predicates,
      ∀ m ∈ p.mentions none, listing.entity.Sees m := by
  unfold clausesAt
  split
  · exact fun _ hp => absurd hp List.not_mem_nil
  · rename_i filter hfilter
    split
    · exact fun _ hp => absurd hp List.not_mem_nil
    · exact Listing.sees_filterClauses hrules hfilter _ value

theorem sees_searchClauses (selection : Selection) :
    ∀ p ∈ (selection.searchClauses listing).predicates,
      ∀ m ∈ p.mentions none, listing.entity.Sees m := by
  unfold searchClauses
  split
  · exact fun _ hp => absurd hp List.not_mem_nil
  · rename_i search _
    split
    · exact fun _ hp => absurd hp List.not_mem_nil
    · refine List.forall_mem_singleton.2 fun m hm => ?_
      rw [Predicate.mentions, Predicate.mem_allMentions_iff] at hm
      obtain ⟨p, hp, hm⟩ := hm
      obtain ⟨c, hc, rfl⟩ := List.mem_map.1 hp
      -- every column that is searched belongs to a filter
      obtain ⟨key, -, hcolumn⟩ := List.mem_filterMap.1 hc
      obtain ⟨column, -, rfl⟩ := Option.map_eq_some_iff.1 hcolumn
      exact Listing.sees_like column _ m hm

/-- What a selection compiles to names the entity's own tables, and in subqueries the base table. -/
theorem sees_clauses (hrules : listing.RulesKeepToTheirColumn) (selection : Selection) :
    ∀ p ∈ (selection.clauses listing).predicates,
      ∀ m ∈ p.mentions none, listing.entity.Sees m := by
  have hblocks : ∀ block ∈ selection.blocks listing, ∀ p ∈ block.predicates,
      ∀ m ∈ p.mentions none, listing.entity.Sees m := by
    intro block hblock
    obtain ⟨⟨key, value⟩, -, rfl⟩ := List.mem_map.1 hblock
    exact sees_clausesAt hrules selection key value
  intro p hp
  rw [Clauses.predicates, conditions_clauses, having_clauses] at hp
  simp only [List.mem_append, List.mem_flatMap] at hp
  rcases hp with (⟨block, hblock, hp⟩ | hp) | ⟨block, hblock, hp⟩ | hp
  · exact hblocks block hblock p (List.mem_append_left _ hp)
  · exact sees_searchClauses selection p (List.mem_append_left _ hp)
  · exact hblocks block hblock p (List.mem_append_right _ hp)
  · exact sees_searchClauses selection p (List.mem_append_right _ hp)

end Selection

/-! ## The other clauses -/

namespace Listing

variable {listing : Listing} {request : ListRequest}

/-- An aggregate lists a column of the entity or of the table joined for it. -/
theorem table_aggregateSource (target : FilterTarget) :
    (∃ side, (listing.aggregateSource target).1.table = listing.entity.label side)
      ∨ ∃ j, (listing.aggregateSource target).2 = some j
        ∧ (listing.aggregateSource target).1.table = j.table.label := by
  cases target with
  | column column _ => exact .inl ⟨column.side, rfl⟩
  | junction j => exact .inr ⟨_, rfl, rfl⟩
  | substring column => exact .inl ⟨column.side, rfl⟩
  | rule column _ => exact .inl ⟨column.side, rfl⟩

/-- What is selected beside the entity is a column of it, or of the table joined for it. -/
theorem table_of_mem_columns {contribution : Contribution}
    (h : contribution ∈ listing.contributions) {c : Column} (hc : c ∈ contribution.item.columns) :
    (∃ side, c.table = listing.entity.label side)
      ∨ ∃ j, contribution.join = some j ∧ c.table = j.table.label := by
  rcases List.mem_append.1 h with h | h
  · obtain ⟨⟨key, filter⟩, -, hfilter⟩ := List.mem_filterMap.1 h
    obtain ⟨aggregate, -, rfl⟩ := Option.map_eq_some_iff.1 hfilter
    -- a paired column is in the table of the column that it is paired with
    have htable : c.table = (listing.aggregateSource filter.target).1.table := by
      rcases List.mem_cons.1 hc with rfl | hc
      · rfl
      · obtain ⟨paired, -, rfl⟩ := Option.map_eq_some_iff.1 (Option.mem_toList.1 hc)
        rfl
    rw [htable]
    exact table_aggregateSource filter.target
  · obtain ⟨summary, -, rfl⟩ := List.mem_map.1 h
    rw [List.mem_singleton.1 hc]
    exact .inr ⟨_, rfl, rfl⟩

/-- A list is sorted by columns of the entity, and one of them is selected at most. -/
theorem sees_orderByChoice (choice : SortChoice) (alternate : Bool) :
    (∀ t ∈ (listing.orderByChoice choice alternate).terms,
        ∃ side, t.expr.column.table = listing.entity.label side)
      ∧ ∀ e ∈ (listing.orderByChoice choice alternate).selected,
        ∃ side, e.expr.column.table = listing.entity.label side := by
  have htie : ∃ side, listing.tieBreaker.expr.column.table = listing.entity.label side :=
    ⟨.base, rfl⟩
  unfold orderByChoice
  split
  · rename_i key _
    simp only [orderBy]
    generalize (if alternate then key.alternate.getD key.base else key.base) = source
    refine ⟨fun t ht => ?_, fun e he => ?_⟩
    · split at ht
      · rw [List.mem_singleton.1 ht]
        exact ⟨_, rfl⟩
      · rcases List.mem_cons.1 ht with rfl | ht
        · exact ⟨_, rfl⟩
        · rw [List.mem_singleton.1 ht]
          exact htie
    · obtain ⟨label, -, rfl⟩ := Option.map_eq_some_iff.1 he
      exact ⟨_, rfl⟩
  · refine ⟨List.forall_mem_singleton.2 htie, fun e he => ?_⟩
    cases he

/-- The joins for aggregates and summaries come after the entity's own tables. -/
theorem inOrder_select :
    Join.InOrder [(listing.select request).source.table.label]
      (listing.select request).source.joins := by
  refine Join.inOrder_append.2 ⟨listing.entity.inOrder_fromClause request.alternate, ?_⟩
  have hbase : listing.entity.label .base ∈ (listing.entity.fromClause request.alternate).labels :=
    Entity.labels_subset_fromClause request.alternate (Entity.label_mem_labels .base)
  refine Join.inOrder_of_columns hbase fun j hj c hc => ?_
  obtain ⟨-, hleft, hright⟩ := onBase_of_mem_addedJoins (mem_of_mem_firstPerLabel hj)
  rcases List.mem_cons.1 hc with rfl | hc
  · exact .inl hleft
  · rcases List.mem_cons.1 hc with rfl | hc
    · exact .inr hright
    · obtain ⟨condition, -, rfl⟩ := List.mem_map.1 hc
      exact .inr rfl

/-- The entity's own labels and those of the joined tables. -/
theorem labels_select :
    (listing.select request).source.labels
      = (listing.entity.fromClause request.alternate).labels
        ++ (firstPerLabel listing.addedJoins).map (·.table.label) := by
  show _ :: List.map _ (_ ++ _) = _
  rw [List.map_append]
  rfl

/-- What is selected is a column of the entity or of a table that has been joined. -/
theorem inScope_items {item : SelectItem} (h : item ∈ (listing.select request).items) {c : Column}
    (hc : c ∈ item.columns) : c.table ∈ (listing.select request).source.labels := by
  have hown : ∀ {c : Column}, (∃ side, c.table = listing.entity.label side) →
      c.table ∈ (listing.select request).source.labels := by
    rintro c ⟨side, hside⟩
    rw [labels_select, hside]
    exact List.mem_append_left _
      (Entity.labels_subset_fromClause request.alternate (Entity.label_mem_labels side))
  simp only [select, List.cons_append, List.mem_cons, List.mem_append, List.mem_map,
    Option.mem_toList, Option.map_eq_some_iff, List.not_mem_nil, or_false] at h
  rcases h with rfl | (⟨e, he, rfl⟩ | ⟨contribution, hcontribution, rfl⟩) | rfl
  · rw [List.mem_singleton.1 hc]
    exact hown ⟨.base, rfl⟩
  · rw [List.mem_singleton.1 hc]
    exact hown ((sees_orderByChoice request.sort request.alternate).2 e he)
  · rcases table_of_mem_columns hcontribution hc with hside | ⟨j, hjoin, htable⟩
    · exact hown hside
    · -- the first join with this label has been made
      have hj : j ∈ listing.addedJoins := List.mem_filterMap.2 ⟨contribution, hcontribution, hjoin⟩
      obtain ⟨first, hfirst, hlabel⟩ := exists_mem_firstPerLabel hj
      rw [labels_select, htable, ← hlabel]
      exact List.mem_append_right _ (List.mem_map.2 ⟨first, hfirst, rfl⟩)
  · cases hc

/-- Clause by clause, every column is in scope. -/
theorem inScope_select (hrules : listing.RulesKeepToTheirColumn) :
    ∀ m ∈ (listing.select request).mentions,
      m.InScope (listing.select request).source.labels listing.entity.table.label := by
  have hown : ∀ m, listing.entity.Sees m →
      m.InScope (listing.select request).source.labels listing.entity.table.label := by
    intro m hm
    refine Mention.InScope.mono ?_ hm
    rw [labels_select]
    exact fun label hlabel => List.mem_append_left _
      (Entity.labels_subset_fromClause request.alternate hlabel)
  have hclauses := Selection.sees_clauses hrules request.selection
  intro m hm
  simp only [Select.mentions, List.mem_append, List.mem_cons, List.mem_map, List.mem_flatMap,
    Predicate.mem_allMentions_iff] at hm
  -- items, joins, conditions, the group column, conditions on groups, and the order
  rcases hm with (((⟨c, ⟨item, hitem, hc⟩, rfl⟩ | ⟨c, ⟨j, hj, hc⟩, rfl⟩) | ⟨p, hp, hm⟩)
    | rfl | ⟨p, hp, hm⟩) | ⟨t, ht, rfl⟩
  · exact inScope_items hitem hc
  · exact inOrder_select.columns j hj c hc
  · exact hown m (hclauses p (List.mem_append_left _ hp) m hm)
  · exact hown _ (Entity.sees_of_label (show _ = listing.entity.label .base from rfl))
  · exact hown m (hclauses p (List.mem_append_right _ hp) m hm)
  · obtain ⟨side, hside⟩ := (sees_orderByChoice request.sort request.alternate).1 t ht
    exact hown _ (Entity.sees_of_label hside)

end Listing

/-- Every column that a page query names, in whatever clause, has a label that the source introduces,
and in a subquery the subquery's own or the base table's. Each join is made by columns of its own
table and of those before it, and the joins for aggregates and summaries introduce no label twice. A
column of the alternate side of an entity without an alternate table is one of the base table, so
that this holds whether or not the listing was checked. -/
theorem pageQuery_names_columns_in_scope {listing : Listing}
    (hrules : listing.RulesKeepToTheirColumn) {request : ListRequest} (hvalid : request.isValid)
    {backend : Backend} (hbackend : backend ≠ .postgres) :
    ∃ query, listing.pageQuery request backend = .ok query
      ∧ query.select.Reads backend query.sql
      ∧ (∀ m ∈ query.select.mentions,
        m.InScope query.select.source.labels listing.entity.table.label)
      ∧ Join.InOrder [query.select.source.table.label] query.select.source.joins
      ∧ ∃ added, query.select.source.joins
          = (listing.entity.fromClause request.alternate).joins ++ added
        ∧ (added.map (·.table.label)).Nodup :=
  ⟨_, Listing.pageQuery_of_isValid hvalid hbackend, PageQuery.reads_sql _,
    Listing.inScope_select hrules,
    Listing.inOrder_select, firstPerLabel listing.addedJoins, rfl,
    nodup_firstPerLabel listing.addedJoins⟩

/-- The rule for editions looks at nothing but the edition. -/
theorem Spells.keepToTheirColumn {listing : Listing} (h : listing.UsesOnlyEditionRule) :
    listing.RulesKeepToTheirColumn := by
  intro key filter column rule hfilter htarget value p hp m hm
  rw [h key filter column rule hfilter htarget] at hp
  have hmentions : p.mentions none = [⟨listing.entity.qualify column, none⟩] := by
    unfold editionRule at hp
    split at hp
    · split at hp
      · rw [List.mem_singleton.1 hp]
        rfl
      · rw [List.mem_singleton.1 hp]
        rfl
    · cases hp
  rw [hmentions, List.mem_singleton] at hm
  subst hm
  rfl

/-- Spells of both of two schools that a class can cast, of an edition, like a pattern in one of two
columns. -/
def Spells.ofBothSchools : ListRequest where
  selection :=
    { values := .ofList
        [ ("school", .list [.int 3, .int 5]),
          ("classId", .list [.int 1]),
          ("edition_id", .single (.int 4)) ]
      quantifiers := .ofList [("school", .all)]
      search := some ⟨["name", "spell_level"], "%fire%"⟩ }
  pagination := ⟨1, 20⟩
  sort := ⟨"spell_level", .descending⟩
  errors := []
  alternate := true

/-- The level map comes first, the spells are joined to it, and then the five tables of tags. -/
theorem pageQuery_names_columns_in_scope_both_schools :
    ∃ listing query, Spells.declaration.build = .ok listing
      ∧ listing.pageQuery Spells.ofBothSchools .mysql = .ok query
      ∧ query.select.source.labels = ["slm", "sp", "ssm", "ssubm", "sdm", "scm", "ssm_src"]
      ∧ (⟨⟨"sp", "spell_id"⟩, some "ssm"⟩ ∈ query.select.mentions
        ∧ ⟨⟨"slm", "class_id"⟩, none⟩ ∈ query.select.mentions)
      ∧ (∀ m ∈ query.select.mentions, m.InScope query.select.source.labels "sp")
      ∧ Join.InOrder [query.select.source.table.label] query.select.source.joins := by
  obtain ⟨listing, hbuild⟩ := Resource.spells.exists_build
  have hrules := Spells.keepToTheirColumn (Spells.usesOnlyEditionRule hbuild)
  obtain ⟨query, hquery, -, hscope, horder, -⟩ := @pageQuery_names_columns_in_scope listing hrules
    Spells.ofBothSchools rfl .mysql (by decide)
  have hselect : query = ⟨listing.select Spells.ofBothSchools, .mysql, true⟩ :=
    Except.ok.inj (hquery.symm.trans (Listing.pageQuery_of_isValid rfl (by decide)))
  have hlabels : (Spells.declaration.build.toOption.map fun listing =>
      (listing.select Spells.ofBothSchools).source.labels)
      = some ["slm", "sp", "ssm", "ssubm", "sdm", "scm", "ssm_src"] := by decide +kernel
  have hmentions : (Spells.declaration.build.toOption.map fun listing =>
      decide (⟨⟨"sp", "spell_id"⟩, some "ssm"⟩ ∈ (listing.select Spells.ofBothSchools).mentions
        ∧ ⟨⟨"slm", "class_id"⟩, none⟩ ∈ (listing.select Spells.ofBothSchools).mentions))
      = some true := by decide +kernel
  have hlabels := eq_of_map_toOption hbuild hlabels
  have hmentions := eq_of_map_toOption hbuild hmentions
  have hbase : listing.entity.table.label = "sp" := by
    rw [(Declaration.builtInto_of_build hbuild).entity]
    rfl
  rw [hbase] at hscope
  subst hselect
  exact ⟨listing, _, hbuild, hquery, hlabels, of_decide_eq_true hmentions, hscope, horder⟩

end Compendium
