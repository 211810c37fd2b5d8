import Compendium.Proofs.Relational.DrivingTable
import Compendium.Proofs.Statement.Scope

/-!
# Compendium — joins that share a label

An aggregate over a junction declares a join, and so does every summary. In a statement a label
stands for one table, so that of the joins that are declared under one label only the first is made,
and the others read what it brings in.

* `Listing.declaredJoins` are the joins as they are declared.
* `filter_firstPerLabel` says what is left of them under a label.
* `Listing.Introduces` says how the source of a statement introduces the label of a declared join,
  and when it does so by that join.
* `each_label_is_introduced_by_its_first_join` is the law for all aggregates and summaries, and
  `Resource.leftJoins_select` what it comes to in the catalog, where labels are kept apart.
* `a_label_is_taken_by_another_join` are two labels in a listing that is accepted, one of them
  introduced by another join than the declared one and the other twice.
-/

namespace Compendium

/-! ## Joins by label -/

/-- Of the joins under one label the first remains. -/
theorem filter_firstPerLabel (js : List Join) (label : String) :
    (firstPerLabel js).filter (·.table.label = label)
      = (js.find? (·.table.label = label)).toList := by
  induction js with
  | nil => rfl
  | cons j js ih =>
    rw [firstPerLabel]
    by_cases hlabel : j.table.label = label
    · -- the first join under the label leaves it to none of the others
      have hnone : ((firstPerLabel js).filter (·.table.label ≠ j.table.label)).filter
          (·.table.label = label) = [] := by
        rw [List.filter_filter, List.filter_eq_nil_iff]
        intro j' _ hj'
        simp only [Bool.and_eq_true, decide_eq_true_eq] at hj'
        exact hj'.2 (hj'.1.trans hlabel.symm)
      rw [List.filter_cons_of_pos (by simpa using hlabel), hnone,
        List.find?_cons_of_pos (by simpa using hlabel)]
      rfl
    · -- a join under another label is dropped for another reason
      have hsame : ((firstPerLabel js).filter (·.table.label ≠ j.table.label)).filter
          (·.table.label = label) = (firstPerLabel js).filter (·.table.label = label) := by
        rw [List.filter_filter]
        refine List.filter_congr fun j' _ => ?_
        rw [Bool.eq_iff_iff, Bool.and_eq_true, decide_eq_true_eq, decide_eq_true_eq]
        exact and_iff_left_of_imp fun h hj => hlabel (hj.symm.trans h)
      rw [List.filter_cons_of_neg (by simpa using hlabel), hsame, ih,
        List.find?_cons_of_neg (by simpa using hlabel)]

/-- A join is found under its own label unless another one goes by the label before it. -/
theorem find?_label_eq_some_iff {js : List Join} {j : Join} :
    js.find? (·.table.label = j.table.label) = some j ↔
      ∃ before after, js = before ++ j :: after
        ∧ ∀ other ∈ before, other.table.label = j.table.label → other = j := by
  constructor
  · intro h
    obtain ⟨-, before, after, hsplit, hbefore⟩ := List.find?_eq_some_iff_append.1 h
    refine ⟨before, after, hsplit, fun other hother hlabel => ?_⟩
    have hnot := hbefore other hother
    rw [decide_eq_true hlabel] at hnot
    cases hnot
  · rintro ⟨before, after, rfl, hbefore⟩
    rw [List.find?_append]
    -- what is found before the join goes by its label, and so is the join
    rcases hfound : before.find? (·.table.label = j.table.label) with _ | other
    · rw [hfound, Option.none_or]
      exact List.find?_cons_of_pos (decide_eq_true rfl)
    · have hlabel : other.table.label = j.table.label := by
        simpa using List.find?_some hfound
      rw [hfound, Option.some_or]
      exact congrArg some (hbefore other (List.mem_of_find?_eq_some hfound) hlabel)

/-- The left joins by which a source introduces a label. -/
def FromClause.leftJoins (f : FromClause) (label : String) : List Join :=
  f.joins.filter fun j => j.kind = .left ∧ j.table.label = label

/-- The entity's own tables introduce their own labels only. -/
theorem Entity.leftJoins_of_ne {entity : Entity} {alternate : Bool} {label : String}
    (h : ∀ side, entity.label side ≠ label) :
    (entity.fromClause alternate).leftJoins label = [] := by
  unfold FromClause.leftJoins
  rw [List.filter_eq_nil_iff]
  intro j hj hlabel
  rw [decide_eq_true_eq] at hlabel
  -- of two tables the one that does not drive the query is joined
  obtain ⟨side, hside⟩ : ∃ side, j.table.label = entity.label side := by
    rcases halt : entity.alternate with _ | alt
    · rw [fromClause, halt] at hj
      cases hj
    · cases alternate with
      | false =>
        rw [fromClause_false halt, List.mem_singleton] at hj
        rw [hj]
        exact ⟨.alternate, by rw [Entity.label, halt]; rfl⟩
      | true =>
        rw [fromClause_true halt, List.mem_singleton] at hj
        rw [hj]
        exact ⟨.base, rfl⟩
  exact h side (hside.symm.trans hlabel.2)

/-! ## Joins as they are declared -/

namespace Listing

variable {listing : Listing} {request : ListRequest}

/-- The junction's rows beside the rows of the base table that have the same id. -/
def junctionJoin (listing : Listing) (j : Junction) : Join :=
  ⟨.left, j.table, ⟨listing.entity.table.label, j.idColumn⟩, j.id, j.fixed⟩

/-- Only a filter with a junction needs a join, and only for its aggregate. -/
def declaredJoin? (listing : Listing) (filter : Filter) : Option Join :=
  match filter.target with
  | .junction j => filter.aggregate.map fun _ => listing.junctionJoin j
  | .column _ _ => none
  | .substring _ => none
  | .rule _ _ => none

/-- The joins that the filters declare, in their order, and then those of the summaries. -/
def declaredJoins (listing : Listing) : List Join :=
  listing.filters.toList.filterMap (fun e => listing.declaredJoin? e.2)
    ++ listing.summaries.map listing.summaryJoin

/-- Nothing is joined but what is declared. -/
theorem addedJoins_eq : listing.addedJoins = listing.declaredJoins := by
  -- filter by filter, what is contributed is what is declared
  have hfilter : ∀ filter, (listing.aggregateContribution filter).bind (·.join)
      = listing.declaredJoin? filter := by
    intro filter
    unfold aggregateContribution declaredJoin?
    rcases filter.aggregate with _ | aggregate <;> cases filter.target <;> rfl
  have hsummaries : (listing.summaries.map listing.summaryContribution).filterMap (·.join)
      = listing.summaries.map listing.summaryJoin := by
    rw [List.filterMap_map]
    exact congrFun List.filterMap_eq_map' _
  rw [addedJoins, contributions, List.filterMap_append, List.filterMap_filterMap, hsummaries,
    declaredJoins]
  exact congrArg (· ++ _) (List.filterMap_congr fun e _ => hfilter e.2)

/-- Beside the left joins of the entity's own tables a label has the first that is declared for
it. -/
theorem leftJoins_select (label : String) :
    (listing.select request).source.leftJoins label
      = (listing.entity.fromClause request.alternate).leftJoins label
        ++ (listing.declaredJoins.find? (·.table.label = label)).toList := by
  show List.filter _ (_ ++ firstPerLabel listing.addedJoins) = _
  rw [List.filter_append, ← filter_firstPerLabel, ← addedJoins_eq]
  congr 1
  -- all joins that are added are left joins, so only their labels count
  refine List.filter_congr fun j hj => ?_
  have hkind := (onBase_of_mem_addedJoins (mem_of_mem_firstPerLabel hj)).1
  simp only [hkind, true_and]

/-- An aggregate over a junction declares the junction's join. -/
theorem junctionJoin_mem_declaredJoins {key : String} {filter : Filter} {j : Junction}
    {aggregate : Aggregate} (hfilter : listing.filters.get? key = some filter)
    (htarget : filter.target = .junction j) (haggregate : filter.aggregate = some aggregate) :
    listing.junctionJoin j ∈ listing.declaredJoins := by
  have hmem := (OrderedMap.get?_eq_some_iff _ _ _).1 hfilter
  refine List.mem_append_left _ (List.mem_filterMap.2 ⟨_, hmem, ?_⟩)
  simp only [declaredJoin?, htarget, haggregate]
  rfl

theorem summaryJoin_mem_declaredJoins {summary : Summary} (h : summary ∈ listing.summaries) :
    listing.summaryJoin summary ∈ listing.declaredJoins :=
  List.mem_append_right _ (List.mem_map.2 ⟨summary, h, rfl⟩)

/-- A junction's aggregate is selected from the table that goes by the junction's label. -/
theorem aggregate_mem_items {key : String} {filter : Filter} {j : Junction} {aggregate : Aggregate}
    (hfilter : listing.filters.get? key = some filter) (htarget : filter.target = .junction j)
    (haggregate : filter.aggregate = some aggregate) :
    .values j.value (aggregate.paired.map (Column.mk j.table.label)) aggregate.label
      ∈ (listing.select request).items := by
  have hmem := (OrderedMap.get?_eq_some_iff _ _ _).1 hfilter
  have hcontribution : listing.aggregateContribution filter
      = some ⟨.values j.value (aggregate.paired.map (Column.mk j.table.label)) aggregate.label,
        some (listing.junctionJoin j)⟩ := by
    simp only [aggregateContribution, haggregate, htarget]
    rfl
  have hmem : _ ∈ listing.contributions :=
    List.mem_append_left _ (List.mem_filterMap.2 ⟨_, hmem, hcontribution⟩)
  apply List.mem_append_left
  apply List.mem_append_right
  exact List.mem_map.2 ⟨_, hmem, rfl⟩

/-! ## Labels in a statement -/

/-- How a source introduces the label of a declared join. -/
structure Introduces (listing : Listing) (alternate : Bool) (source : FromClause)
    (declared : Join) : Prop where
  /-- Once, beside what the entity's own tables do: by the first join that is declared under it. -/
  once : ∃ first, listing.declaredJoins.find? (·.table.label = declared.table.label) = some first
    ∧ source.leftJoins declared.table.label
      = (listing.entity.fromClause alternate).leftJoins declared.table.label ++ [first]
  /-- By the declared join itself if and only if no other has been declared under the label before
  it. -/
  itself_iff : source.leftJoins declared.table.label
      = (listing.entity.fromClause alternate).leftJoins declared.table.label ++ [declared]
    ↔ ∃ before after, listing.declaredJoins = before ++ declared :: after
      ∧ ∀ other ∈ before, other.table.label = declared.table.label → other = declared

/-- What holds of the first join under a label holds of every declared one. -/
theorem introduces_of_mem {declared : Join} (h : declared ∈ listing.declaredJoins) :
    listing.Introduces request.alternate (listing.select request).source declared := by
  have hsome : (listing.declaredJoins.find? (·.table.label = declared.table.label)).isSome :=
    List.find?_isSome.2 ⟨declared, h, decide_eq_true rfl⟩
  obtain ⟨first, hfirst⟩ := Option.isSome_iff_exists.1 hsome
  have hjoins : (listing.select request).source.leftJoins declared.table.label = _ :=
    leftJoins_select declared.table.label
  rw [hfirst, Option.toList_some] at hjoins
  refine ⟨⟨first, hfirst, hjoins⟩, ?_⟩
  rw [← find?_label_eq_some_iff, hfirst, hjoins, List.append_cancel_left_eq, List.cons.injEq,
    and_iff_left rfl, Option.some.injEq]

/-- Where labels are kept apart, each declared join is made, and its label is introduced by nothing
else. -/
theorem leftJoins_select_of_keepsLabelsApart (h : listing.KeepsLabelsApart) {declared : Join}
    (hmem : declared ∈ listing.declaredJoins) :
    (listing.select request).source.leftJoins declared.table.label = [declared] := by
  have hadded : declared ∈ listing.addedJoins := by
    rw [addedJoins_eq]
    exact hmem
  have hentity : (listing.entity.fromClause request.alternate).leftJoins declared.table.label
      = [] := Entity.leftJoins_of_ne fun side => (h.own declared hadded side).symm
  obtain ⟨first, hfirst, hjoins⟩ :=
    (introduces_of_mem hmem : listing.Introduces request.alternate _ declared).once
  -- whoever is the first under the label asks for the same join
  have hsame : first = declared := by
    have hlabel : first.table.label = declared.table.label := by
      simpa using List.find?_some hfirst
    refine h.shared first ?_ declared hadded hlabel
    rw [addedJoins_eq]
    exact List.mem_of_find?_eq_some hfirst
  rw [hjoins, hentity, hsame, List.nil_append]

end Listing

/-- An aggregate over a junction is selected from the table that goes by the junction's label, and a
summary from the one that goes by its own. Either label is introduced by exactly one left join
beside the entity's own tables: by the first that any aggregate or summary declares under it, which
is the one of the junction or the summary itself unless another has taken the label before. Where no
two declarations want different joins under one label, as in all lists of the catalog, each has its
own. -/
theorem each_label_is_introduced_by_its_first_join {listing : Listing} {request : ListRequest}
    (hvalid : request.isValid) {backend : Backend} (hbackend : backend ≠ .postgres) :
    ∃ query, listing.pageQuery request backend = .ok query
      ∧ query.select.Reads backend query.sql
      ∧ (∀ key filter j aggregate, listing.filters.get? key = some filter →
        filter.target = .junction j → filter.aggregate = some aggregate →
        .values j.value (aggregate.paired.map (Column.mk j.table.label)) aggregate.label
            ∈ query.select.items
          ∧ listing.Introduces request.alternate query.select.source (listing.junctionJoin j))
      ∧ (∀ summary ∈ listing.summaries,
        .summary summary.kind summary.source summary.label ∈ query.select.items
          ∧ listing.Introduces request.alternate query.select.source (listing.summaryJoin summary))
      ∧ (listing.KeepsLabelsApart → ∀ declared ∈ listing.declaredJoins,
        query.select.source.leftJoins declared.table.label = [declared])
      ∧ ∀ r : Resource, r.declaration.build = .ok listing → listing.KeepsLabelsApart := by
  refine ⟨_, Listing.pageQuery_of_isValid hvalid hbackend, PageQuery.reads_sql _,
    fun key filter j aggregate hfilter htarget haggregate => ⟨?_, ?_⟩,
    fun summary hsummary => ⟨Listing.summary_mem_items hsummary, ?_⟩,
    fun hlabels declared hmem => Listing.leftJoins_select_of_keepsLabelsApart hlabels hmem,
    fun r hbuild => r.keepsLabelsApart hbuild⟩
  · exact Listing.aggregate_mem_items hfilter htarget haggregate
  · exact Listing.introduces_of_mem
      (Listing.junctionJoin_mem_declaredJoins hfilter htarget haggregate)
  · exact Listing.introduces_of_mem (Listing.summaryJoin_mem_declaredJoins hsummary)

namespace Spells

/-- The sources that are displayed, as the catalog has them. -/
def shownSources : Junction :=
  ⟨⟨"spell_source_map", "ssm_src"⟩, "spell_id", "book_id", [displayed]⟩

/-- The pages on which a spell is printed, for the same rows of the source map. -/
def pages : Junction := { shownSources with valueColumn := "page_number" }

/-- All sources, those that are not displayed among them. -/
def allSources : Junction := { shownSources with fixed := [] }

/-- The classes of a spell, by a junction over the table that is the alternate one as well. -/
def casters : Junction := ⟨⟨"spell_level_map", "slm"⟩, "spell_id", "class_id", [displayed]⟩

/-- An aggregate of the filter's name over the junction. -/
def listed (key : String) (j : Junction) : String × Filter :=
  (key, { Filter.onJunction j with aggregate := some ⟨none, key⟩ })

def declarationWith (filters : List (String × Filter)) : Declaration :=
  { declaration with filters := declaration.filters ++ filters }

end Spells

/-- Two aggregates read from the source map that is joined for the first of them, as both declare
it. -/
theorem each_label_is_introduced_by_its_first_join_pages :
    ∃ listing query,
      (Spells.declarationWith [Spells.listed "pages" Spells.pages]).build = .ok listing
      ∧ listing.pageQuery Spells.ofBothSchools .sqlite = .ok query
      ∧ .values ⟨"ssm_src", "book_id"⟩ (some ⟨"ssm_src", "page_number"⟩) "source_info"
        ∈ query.select.items
      ∧ .values ⟨"ssm_src", "page_number"⟩ none "pages" ∈ query.select.items
      ∧ query.select.source.leftJoins "ssm_src"
        = [⟨.left, ⟨"spell_source_map", "ssm_src"⟩, ⟨"sp", "spell_id"⟩, ⟨"ssm_src", "spell_id"⟩,
          [Spells.displayed]⟩] := by
  let declaration := Spells.declarationWith [Spells.listed "pages" Spells.pages]
  let shown : Join := ⟨.left, ⟨"spell_source_map", "ssm_src"⟩, ⟨"sp", "spell_id"⟩,
    ⟨"ssm_src", "spell_id"⟩, [Spells.displayed]⟩
  have hevaluated : (declaration.build.toOption.map fun listing =>
      listing.declaredJoins.find? (·.table.label = "ssm_src")) = some (some shown) := by
    decide +kernel
  obtain ⟨listing, hlisting, hfind⟩ := Option.map_eq_some_iff.1 hevaluated
  have hbuild := toOption_eq_some_iff.1 hlisting
  have hbuilt := Declaration.builtInto_of_build hbuild
  obtain ⟨query, hquery, -, haggregates, -⟩ := @each_label_is_introduced_by_its_first_join listing
    Spells.ofBothSchools rfl .sqlite (by decide)
  have hsource : listing.filters.get? "source" = some Spells.sources := by
    rw [OrderedMap.get?_eq_some_iff, hbuilt.filters]
    simp [declaration, Spells.declarationWith, Spells.declaration]
  have hpages : listing.filters.get? "pages" = some (Spells.listed "pages" Spells.pages).2 := by
    rw [OrderedMap.get?_eq_some_iff, hbuilt.filters]
    exact List.mem_append_right _ (List.mem_singleton_self _)
  obtain ⟨hbooks, -⟩ := haggregates "source" _ Spells.shownSources _ hsource rfl rfl
  obtain ⟨hnumbers, hintroduces⟩ := haggregates "pages" _ Spells.pages _ hpages rfl rfl
  -- the first join under the label is that of the displayed sources
  obtain ⟨first, hfirst, hjoins⟩ := hintroduces.once
  cases hfirst.symm.trans hfind
  rw [hbuilt.entity] at hjoins
  exact ⟨listing, query, hbuild, hquery, hbooks, hnumbers, hjoins⟩

/-- Of two junctions under one label the second reads from the first one's join, and under the fixed
condition of that. A junction under the alternate table's label is joined beside that table. -/
theorem a_label_is_taken_by_another_join :
    ∃ listing request query,
      (Spells.declarationWith [Spells.listed "all_sources" Spells.allSources,
        Spells.listed "casters" Spells.casters]).build = .ok listing
      ∧ listing.readRequest ⟨[]⟩ (.ofPairs []) = .ok request ∧ request.errors = []
      ∧ listing.pageQuery request .sqlite = .ok query
      ∧ .values Spells.allSources.value none "all_sources" ∈ query.select.items
      ∧ query.select.source.leftJoins "ssm_src" = [listing.junctionJoin Spells.shownSources]
      ∧ listing.junctionJoin Spells.shownSources ≠ listing.junctionJoin Spells.allSources
      ∧ .values Spells.casters.value none "casters" ∈ query.select.items
      ∧ query.select.source.leftJoins "slm"
        = [listing.junctionJoin Spells.casters, listing.junctionJoin Spells.casters] := by
  let items : List SelectItem := [.values Spells.allSources.value none "all_sources",
    .values Spells.casters.value none "casters"]
  have hevaluated : ((Spells.declarationWith [Spells.listed "all_sources" Spells.allSources,
      Spells.listed "casters" Spells.casters]).build.toOption.bind fun listing =>
        (listing.readRequest ⟨[]⟩ (.ofPairs [])).toOption.map fun request =>
          (request.errors, decide (items ⊆ (listing.select request).items),
            decide ((listing.select request).source.leftJoins "ssm_src"
              = [listing.junctionJoin Spells.shownSources]),
            decide ((listing.select request).source.leftJoins "slm"
              = [listing.junctionJoin Spells.casters, listing.junctionJoin Spells.casters])))
      = some ([], true, true, true) := by decide +kernel
  obtain ⟨listing, request, hbuild, hread, hparts⟩ := exists_of_bind_map_toOption hevaluated
  simp only [Prod.mk.injEq, decide_eq_true_eq] at hparts
  obtain ⟨herrors, hitems, hsources, hlevels⟩ := hparts
  have hvalid : request.isValid := List.isEmpty_iff.2 herrors
  have hfixed : listing.junctionJoin Spells.shownSources ≠ listing.junctionJoin Spells.allSources :=
    fun h => List.cons_ne_nil _ _ (congrArg Join.fixed h)
  refine ⟨listing, request, _, hbuild, hread, herrors,
    Listing.pageQuery_of_isValid hvalid (by decide), ?_, hsources, hfixed, ?_, hlevels⟩
  · exact hitems List.mem_cons_self
  · exact hitems (List.mem_cons_of_mem _ (List.mem_singleton_self _))

end Compendium
