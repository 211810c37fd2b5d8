import Mathlib.Tactic.Set
import Compendium.Proofs.Listing.Accepted
import Compendium.Proofs.Statement.Marks
import Compendium.Statement.PageQuery

/-!
# Compendium — the texts of a listing

All literal text of a page query comes from the listing's declaration or from the library, and none
from the request. So a listing whose own texts are free of marks writes statements that are.

* `Listing.texts` are all texts of a declaration that can get into a statement, and
  `Listing.MarkFree` says that none has a mark, the predicates of its rules included.
* There is a lemma for each part of a statement: `Listing.MarkFree.fromClause`, `.contributions`,
  `.orderByChoice` and `.filterClauses`.
* `Listing.markFree_select` puts them together.
-/

namespace Compendium

/-! ## The texts of a listing -/

def Table.texts (t : Table) : List String := [t.name, t.label]

def AlternateTable.texts (a : AlternateTable) : List String :=
  a.table.texts ++ a.joinColumn :: a.fixed.map (·.column)

def Entity.texts (e : Entity) : List String :=
  e.table.texts ++ e.groupColumn :: (e.alternate.map AlternateTable.texts).getD []

def Junction.texts (j : Junction) : List String :=
  j.table.texts ++ j.idColumn :: j.valueColumn :: j.fixed.map (·.column)

def FilterTarget.texts : FilterTarget → List String
  | .column c fixed => c.name :: fixed.map (·.column)
  | .junction j => j.texts
  | .substring c => [c.name]
  | .rule c _ => [c.name]

def Aggregate.texts (a : Aggregate) : List String := a.label :: a.paired.toList

def Filter.texts (f : Filter) : List String :=
  f.target.texts ++ (f.aggregate.map Aggregate.texts).getD []

def SortSource.texts (s : SortSource) : List String := s.column.name :: s.label.toList

def SortKey.texts (k : SortKey) : List String :=
  k.base.texts ++ (k.alternate.map SortSource.texts).getD []

def Summary.texts (s : Summary) : List String :=
  s.table.texts ++ [s.parentColumn, s.column, s.label]

/-- All texts of the declaration that can get into a statement. -/
def Listing.texts (listing : Listing) : List String :=
  listing.entity.texts ++ listing.filters.toList.flatMap (·.2.texts)
    ++ listing.sortKeys.toList.flatMap (·.2.texts) ++ listing.summaries.flatMap Summary.texts

/-- No text of the listing has a mark. A rule adds none to the column it is given. -/
structure Listing.MarkFree (listing : Listing) : Prop where
  texts : ∀ s ∈ listing.texts, NoMark s
  rules : ∀ key filter column rule, listing.filters.get? key = some filter →
    filter.target = .rule column rule →
      ∀ (c : Column) (v : FilterValue), NoMark c.text → ∀ p ∈ rule c v, p.MarkFree

/-- The rule of the editions writes no texts of its own. -/
theorem Spells.markFree_editionRule (c : Column) (v : FilterValue) (hc : NoMark c.text) :
    ∀ p ∈ editionRule c v, p.MarkFree := by
  have hcolumn : NoMark (ColumnText.text c) := hc
  intro p hp
  simp only [editionRule] at hp
  -- whether it makes a list or an equation, the column is its only text
  split at hp
  · split at hp
    · rcases List.mem_singleton.1 hp with rfl
      intro s hs
      rcases List.mem_singleton.1 hs with rfl
      exact hcolumn
    · rcases List.mem_singleton.1 hp with rfl
      intro s hs
      rcases List.mem_singleton.1 hs with rfl
      exact hcolumn
  · exact absurd hp (by simp)

/-- Between the label and the name there is a dot. -/
@[simp] theorem noMark_columnText (c : Column) :
    NoMark c.text ↔ NoMark c.table ∧ NoMark c.name := by
  simp +decide [Column.text]

theorem noMark_fixedText {label : String} (hlabel : NoMark label) {c : FixedCondition}
    (hc : NoMark c.column) : NoMark (fixedText label c) := by
  simp +decide [fixedText, hlabel, hc, noMark_intRepr]

/-- A join whose texts are free of marks. -/
structure Join.MarkFree (j : Join) : Prop where
  table : ∀ s ∈ j.table.texts, NoMark s
  left : NoMark j.left.text
  right : NoMark j.right.text
  fixed : ∀ c ∈ j.fixed, NoMark c.column

/-- A join writes its table, its two columns and its fixed conditions. -/
theorem Join.noMark_text {j : Join} (h : j.MarkFree) : NoMark j.text := by
  have hname : NoMark j.table.name := h.table _ (by simp [Table.texts])
  have hlabel : NoMark j.table.label := h.table _ (by simp [Table.texts])
  have hkeyword : NoMark j.keyword := by
    unfold keyword
    split <;> decide
  have hfixed : NoMark (String.join (j.fixed.map (fixedText j.table.label))) := by
    refine noMark_join fun s hs => ?_
    obtain ⟨c, hc, rfl⟩ := List.mem_map.1 hs
    exact noMark_fixedText hlabel (h.fixed c hc)
  simp only [Join.text, noMark_append]
  exact ⟨⟨⟨⟨⟨⟨⟨⟨hkeyword, hname⟩, by decide⟩, hlabel⟩, by decide⟩, h.left⟩, by decide⟩, h.right⟩,
    hfixed⟩

theorem FromClause.noMark_text {f : FromClause} (htable : ∀ s ∈ f.table.texts, NoMark s)
    (hjoins : ∀ j ∈ f.joins, j.MarkFree) : NoMark f.text := by
  have hname : NoMark f.table.name := htable _ (by simp [Table.texts])
  have hlabel : NoMark f.table.label := htable _ (by simp [Table.texts])
  have hrest : NoMark (String.join (f.joins.map fun j => " " ++ j.text)) := by
    refine noMark_join fun s hs => ?_
    obtain ⟨j, hj, rfl⟩ := List.mem_map.1 hs
    rw [noMark_append]
    exact ⟨by decide, Join.noMark_text (hjoins j hj)⟩
  simp +decide [FromClause.text, hname, hlabel, hrest]

/-- A junction whose texts are free of marks. -/
structure Junction.MarkFree (j : Junction) : Prop where
  table : ∀ s ∈ j.table.texts, NoMark s
  idColumn : NoMark j.idColumn
  valueColumn : NoMark j.valueColumn
  fixed : ∀ c ∈ j.fixed, NoMark c.column

namespace Junction

variable {j : Junction}

theorem markFree_of_texts (h : ∀ s ∈ j.texts, NoMark s) : j.MarkFree := by
  refine ⟨fun s hs => h s ?_, h _ ?_, h _ ?_, fun c hc => h _ ?_⟩
  · simp [texts, hs]
  · simp [texts]
  · simp [texts]
  · simp only [texts, List.mem_append, List.mem_cons, List.mem_map]
    exact .inr (.inr (.inr ⟨c, hc, rfl⟩))

theorem MarkFree.label (h : j.MarkFree) : NoMark j.table.label := h.table _ (by simp [Table.texts])

theorem MarkFree.id (h : j.MarkFree) : NoMark j.id.text :=
  (noMark_columnText _).2 ⟨h.label, h.idColumn⟩

theorem MarkFree.value (h : j.MarkFree) : NoMark j.value.text :=
  (noMark_columnText _).2 ⟨h.label, h.valueColumn⟩

end Junction

/-- Conditions on rows and on groups whose texts are free of marks. -/
structure Clauses.MarkFree (c : Clauses) : Prop where
  conditions : ∀ p ∈ c.conditions, p.MarkFree
  having : ∀ p ∈ c.having, p.MarkFree

theorem Clauses.MarkFree.empty : Clauses.empty.MarkFree :=
  ⟨fun _ hp => absurd hp (by simp [Clauses.empty]), fun _ hp => absurd hp (by simp [Clauses.empty])⟩

theorem Clauses.MarkFree.ofConditions {ps : List (Predicate Column)}
    (h : ∀ p ∈ ps, p.MarkFree) : (Clauses.ofConditions ps).MarkFree :=
  ⟨h, fun _ hp => absurd hp (by simp [Clauses.ofConditions])⟩

/-! ## The statement of a listing -/

namespace Listing

variable {listing : Listing}

theorem MarkFree.entity (h : listing.MarkFree) : ∀ s ∈ listing.entity.texts, NoMark s :=
  fun s hs => h.texts s (by simp [Listing.texts, hs])

theorem MarkFree.filter (h : listing.MarkFree) {key : String} {filter : Filter}
    (hf : (key, filter) ∈ listing.filters.toList) : ∀ s ∈ filter.texts, NoMark s := by
  intro s hs
  refine h.texts s ?_
  have hmem : s ∈ listing.filters.toList.flatMap (·.2.texts) := List.mem_flatMap.2 ⟨_, hf, hs⟩
  simp only [Listing.texts, List.mem_append]
  exact .inl (.inl (.inr hmem))

theorem MarkFree.sortKey (h : listing.MarkFree) {name : String} {key : SortKey}
    (hk : listing.sortKeys.get? name = some key) : ∀ s ∈ key.texts, NoMark s := by
  intro s hs
  refine h.texts s ?_
  have hmem : s ∈ listing.sortKeys.toList.flatMap (·.2.texts) :=
    List.mem_flatMap.2 ⟨_, (OrderedMap.get?_eq_some_iff _ _ _).1 hk, hs⟩
  simp only [Listing.texts, List.mem_append]
  exact .inl (.inr hmem)

theorem MarkFree.summary (h : listing.MarkFree) {summary : Summary}
    (hsummary : summary ∈ listing.summaries) : ∀ s ∈ summary.texts, NoMark s := by
  intro s hs
  refine h.texts s ?_
  have hmem : s ∈ listing.summaries.flatMap Summary.texts :=
    List.mem_flatMap.2 ⟨_, hsummary, hs⟩
  simp only [Listing.texts, List.mem_append]
  exact .inr hmem

theorem MarkFree.label (h : listing.MarkFree) (side : Side) :
    NoMark (listing.entity.label side) := by
  have hbase : NoMark listing.entity.table.label :=
    h.entity _ (by simp [Entity.texts, Table.texts])
  -- an entity without an alternate table has one label for both sides
  cases side with
  | base => exact hbase
  | alternate =>
    rcases halt : listing.entity.alternate with _ | alt
    · simpa [Entity.label, halt] using hbase
    · have hlabel : NoMark alt.table.label :=
        h.entity _ (by simp [Entity.texts, halt, AlternateTable.texts, Table.texts])
      simpa [Entity.label, halt] using hlabel

/-- A column of the entity is written with one of its labels. -/
theorem MarkFree.qualify (h : listing.MarkFree) {column : EntityColumn}
    (hc : NoMark column.name) : NoMark (listing.entity.qualify column).text := by
  rw [noMark_columnText]
  exact ⟨h.label column.side, hc⟩

theorem MarkFree.group (h : listing.MarkFree) : NoMark listing.entity.group.text := by
  rw [noMark_columnText]
  have hcolumn : NoMark listing.entity.groupColumn := h.entity _ (by simp [Entity.texts])
  exact ⟨h.label .base, hcolumn⟩

/-! ### Tables and joins -/

/-- Whichever table leads, the source writes the entity's texts. -/
theorem MarkFree.fromClause (h : listing.MarkFree) (alternate : Bool) :
    (∀ s ∈ (listing.entity.fromClause alternate).table.texts, NoMark s)
      ∧ ∀ j ∈ (listing.entity.fromClause alternate).joins, j.MarkFree := by
  have htable : ∀ s ∈ listing.entity.table.texts, NoMark s :=
    fun s hs => h.entity s (by simp [Entity.texts, hs])
  unfold Entity.fromClause
  rcases halt : listing.entity.alternate with _ | alt
  · exact ⟨htable, fun j hj => absurd hj (by simp)⟩
  · have htexts : ∀ s ∈ alt.texts, NoMark s :=
      fun s hs => h.entity s (by simp [Entity.texts, halt, hs])
    have haltTable : ∀ s ∈ alt.table.texts, NoMark s :=
      fun s hs => htexts s (by simp [AlternateTable.texts, hs])
    have hjoin : NoMark alt.joinColumn := htexts _ (by simp [AlternateTable.texts])
    have hbaseId : NoMark (Column.mk listing.entity.table.label alt.joinColumn).text :=
      (noMark_columnText _).2 ⟨h.label .base, hjoin⟩
    have halternateId : NoMark (Column.mk alt.table.label alt.joinColumn).text :=
      (noMark_columnText _).2 ⟨haltTable _ (by simp [Table.texts]), hjoin⟩
    cases alternate with
    | true =>
      -- the alternate table leads, and the base table is joined to it as it is
      refine ⟨haltTable, fun j hj => ?_⟩
      rcases List.mem_singleton.1 hj with rfl
      exact ⟨htable, halternateId, hbaseId, fun c hc => absurd hc (by simp)⟩
    | false =>
      -- the base table leads, and the alternate one comes with its fixed conditions
      refine ⟨htable, fun j hj => ?_⟩
      rcases List.mem_singleton.1 hj with rfl
      exact ⟨haltTable, hbaseId, halternateId, fun c hc =>
        htexts _ (by
          simp only [AlternateTable.texts, List.mem_append, List.mem_cons, List.mem_map]
          exact .inr (.inr ⟨c, hc, rfl⟩))⟩

/-! ### Aggregates and summaries -/

/-- An aggregate reads a column of its filter's target, and joins its junction. -/
theorem MarkFree.aggregateSource (h : listing.MarkFree) {target : FilterTarget}
    (htarget : ∀ s ∈ target.texts, NoMark s) :
    NoMark (listing.aggregateSource target).1.text
      ∧ ∀ j, (listing.aggregateSource target).2 = some j → j.MarkFree := by
  cases target with
  | column c fixed =>
    exact ⟨h.qualify (htarget _ (by simp [FilterTarget.texts])), fun j hj => by cases hj⟩
  | substring c =>
    exact ⟨h.qualify (htarget _ (by simp [FilterTarget.texts])), fun j hj => by cases hj⟩
  | rule c rule =>
    exact ⟨h.qualify (htarget _ (by simp [FilterTarget.texts])), fun j hj => by cases hj⟩
  | junction j =>
    have hj : j.MarkFree := Junction.markFree_of_texts htarget
    refine ⟨hj.value, fun join hjoin => ?_⟩
    cases hjoin
    have hid : NoMark (Column.mk listing.entity.table.label j.idColumn).text :=
      (noMark_columnText _).2 ⟨h.label .base, hj.idColumn⟩
    exact ⟨hj.table, hid, hj.id, hj.fixed⟩

/-- All backends write a pair with nothing but a colon between. -/
theorem noMark_pair (backend : Backend) {left right : Column} (hleft : NoMark left.text)
    (hright : NoMark right.text) : NoMark (backend.pair left right) := by
  cases backend with
  | sqlite =>
    simp only [Backend.pair, noMark_append]
    exact ⟨⟨hleft, by decide⟩, hright⟩
  | mysql =>
    simp only [Backend.pair, noMark_append]
    exact ⟨⟨⟨⟨by decide, hleft⟩, by decide⟩, hright⟩, by decide⟩
  | postgres =>
    simp only [Backend.pair, noMark_append]
    exact ⟨⟨⟨⟨by decide, hleft⟩, by decide⟩, hright⟩, by decide⟩

/-- An aggregate writes its columns, its label and its join. -/
theorem MarkFree.aggregateContribution (h : listing.MarkFree) {filter : Filter}
    (hfilter : ∀ s ∈ filter.texts, NoMark s) {c : Contribution}
    (hc : listing.aggregateContribution filter = some c) (backend : Backend) :
    NoMark (c.item.text backend) ∧ ∀ j, c.join = some j → j.MarkFree := by
  unfold Listing.aggregateContribution at hc
  obtain ⟨aggregate, haggregate, rfl⟩ := Option.map_eq_some_iff.1 hc
  have htexts : ∀ s ∈ aggregate.texts, NoMark s :=
    fun s hs => hfilter s (by simp [Filter.texts, haggregate, hs])
  have hlabel : NoMark aggregate.label := htexts _ (by simp [Aggregate.texts])
  have htarget : ∀ s ∈ filter.target.texts, NoMark s :=
    fun s hs => hfilter s (by simp [Filter.texts, hs])
  obtain ⟨hcolumn, hjoin⟩ := h.aggregateSource htarget
  refine ⟨?_, hjoin⟩
  rcases hpaired : aggregate.paired with _ | paired
  · show NoMark ("GROUP_CONCAT(DISTINCT " ++ (listing.aggregateSource filter.target).1.text
      ++ ") AS " ++ aggregate.label)
    simp only [noMark_append]
    exact ⟨⟨⟨by decide, hcolumn⟩, by decide⟩, hlabel⟩
  · -- the paired column is in the table of the first one
    have hname : NoMark paired := htexts _ (by simp [Aggregate.texts, hpaired])
    have hpair : NoMark (Column.mk (listing.aggregateSource filter.target).1.table paired).text :=
      (noMark_columnText _).2 ⟨((noMark_columnText _).1 hcolumn).1, hname⟩
    show NoMark ("GROUP_CONCAT(DISTINCT "
      ++ backend.pair (listing.aggregateSource filter.target).1
        ⟨(listing.aggregateSource filter.target).1.table, paired⟩
      ++ ") AS " ++ aggregate.label)
    simp only [noMark_append]
    exact ⟨⟨⟨by decide, noMark_pair backend hcolumn hpair⟩, by decide⟩, hlabel⟩

/-- A summary writes its column, its label and its join. -/
theorem MarkFree.summaryContribution (h : listing.MarkFree) {summary : Summary}
    (hsummary : ∀ s ∈ summary.texts, NoMark s) (backend : Backend) :
    NoMark ((listing.summaryContribution summary).item.text backend)
      ∧ ∀ j, (listing.summaryContribution summary).join = some j → j.MarkFree := by
  have htable : ∀ s ∈ summary.table.texts, NoMark s :=
    fun s hs => hsummary s (by simp [Summary.texts, hs])
  have htableLabel : NoMark summary.table.label := htable _ (by simp [Table.texts])
  have hparent : NoMark summary.parentColumn := hsummary _ (by simp [Summary.texts])
  have hlabel : NoMark summary.label := hsummary _ (by simp [Summary.texts])
  have hcolumn : NoMark (Column.mk summary.table.label summary.column).text :=
    (noMark_columnText _).2 ⟨htableLabel, hsummary _ (by simp [Summary.texts])⟩
  constructor
  · show NoMark (SelectItem.text backend
      (.summary summary.kind ⟨summary.table.label, summary.column⟩ summary.label))
    cases summary.kind with
    | count =>
      show NoMark ("COUNT(DISTINCT " ++ (Column.mk summary.table.label summary.column).text
        ++ ") AS " ++ summary.label)
      simp only [noMark_append]
      exact ⟨⟨⟨by decide, hcolumn⟩, by decide⟩, hlabel⟩
    | nextIndex =>
      show NoMark ("COALESCE(MAX(" ++ (Column.mk summary.table.label summary.column).text
        ++ ") + 1, 0) AS " ++ summary.label)
      simp only [noMark_append]
      exact ⟨⟨⟨by decide, hcolumn⟩, by decide⟩, hlabel⟩
  · intro j hj
    obtain rfl : _ = j := Option.some.inj hj
    exact ⟨htable, h.group, (noMark_columnText _).2 ⟨htableLabel, hparent⟩,
      fun c hc => absurd hc (by simp)⟩

theorem MarkFree.contributions (h : listing.MarkFree) {c : Contribution}
    (hc : c ∈ listing.contributions) (backend : Backend) :
    NoMark (c.item.text backend) ∧ ∀ j, c.join = some j → j.MarkFree := by
  rcases List.mem_append.1 hc with hc | hc
  · obtain ⟨⟨key, filter⟩, hmem, hcontribution⟩ := List.mem_filterMap.1 hc
    exact h.aggregateContribution (h.filter hmem) hcontribution backend
  · obtain ⟨summary, hmem, rfl⟩ := List.mem_map.1 hc
    exact h.summaryContribution (h.summary hmem) backend

/-! ### Order -/

/-- An expression to sort by is a column of the entity or an extremum of it. -/
theorem MarkFree.sortExpr (h : listing.MarkFree) {source : SortSource}
    (hsource : ∀ s ∈ source.texts, NoMark s) :
    NoMark (SortExpr.mk source.extremum (listing.entity.qualify source.column)).text := by
  have hcolumn : NoMark (listing.entity.qualify source.column).text :=
    h.qualify (hsource _ (by simp [SortSource.texts]))
  -- an extremum adds its function and brackets
  rcases source.extremum with _ | extremum
  · exact hcolumn
  · cases extremum <;>
    · simp only [SortExpr.text, noMark_append]
      exact ⟨⟨by decide, hcolumn⟩, by decide⟩

theorem noMark_termText {t : SortTerm} (h : NoMark t.expr.text) : NoMark t.text := by
  obtain ⟨expr, direction⟩ := t
  cases direction <;>
  · simp only [SortTerm.text, Direction.text, noMark_append]
    exact ⟨⟨h, by decide⟩, by decide⟩

/-- The terms of an order and the expression that is selected with it. -/
theorem MarkFree.orderBy (h : listing.MarkFree) {key : SortKey}
    (hkey : ∀ s ∈ key.texts, NoMark s) (direction : Direction) (alternate : Bool) :
    (∀ t ∈ (listing.orderBy key direction alternate).terms, NoMark t.text)
      ∧ ∀ e, (listing.orderBy key direction alternate).selected = some e → NoMark e.text := by
  -- the source in use is one of the key's two
  have hsource : ∀ s ∈ (if alternate then key.alternate.getD key.base else key.base).texts,
      NoMark s := by
    intro s hs
    refine hkey s ?_
    rcases hkeyAlt : key.alternate with _ | source
    · have : s ∈ key.base.texts := by simpa [hkeyAlt] using hs
      simp [SortKey.texts, this]
    · cases alternate with
      | true =>
        have : s ∈ source.texts := by simpa [hkeyAlt] using hs
        simp [SortKey.texts, hkeyAlt, this]
      | false =>
        have : s ∈ key.base.texts := by simpa using hs
        simp [SortKey.texts, this]
  unfold Listing.orderBy
  set source := if alternate then key.alternate.getD key.base else key.base with hdef
  have hexpr := h.sortExpr hsource
  have htie : NoMark listing.tieBreaker.text := noMark_termText (t := listing.tieBreaker) h.group
  constructor
  · intro t ht
    simp only at ht
    split at ht
    · rcases List.mem_singleton.1 ht with rfl
      exact noMark_termText hexpr
    · rcases List.mem_cons.1 ht with rfl | ht
      · exact noMark_termText hexpr
      · rcases List.mem_singleton.1 ht with rfl
        exact htie
  · -- with a label of its own the expression is selected too
    intro e he
    obtain ⟨label, hlabel, rfl⟩ := Option.map_eq_some_iff.1 he
    have hmark : NoMark label := hsource _ (by simp [SortSource.texts, hlabel])
    simp only [LabelledExpr.text, noMark_append]
    exact ⟨⟨hexpr, by decide⟩, hmark⟩

/-- Whatever is asked for, the order is made of declared sources. -/
theorem MarkFree.orderByChoice (h : listing.MarkFree) (choice : SortChoice) (alternate : Bool) :
    (∀ t ∈ (listing.orderByChoice choice alternate).terms, NoMark t.text)
      ∧ ∀ e, (listing.orderByChoice choice alternate).selected = some e → NoMark e.text := by
  unfold Listing.orderByChoice
  split
  · rename_i key hkey
    rw [Option.or_eq_some_iff] at hkey
    rcases hkey with hkey | ⟨-, hkey⟩
    · exact h.orderBy (h.sortKey hkey) _ _
    · exact h.orderBy (h.sortKey hkey) _ _
  · -- without any sort key the tie-breaker alone orders
    refine ⟨fun t ht => ?_, fun e he => by cases he⟩
    rcases List.mem_singleton.1 ht with rfl
    exact noMark_termText (t := listing.tieBreaker) h.group

/-! ### Conditions -/

/-- One value or several, only the column is written. -/
theorem markFree_matchValues {column : Column} (hcolumn : NoMark column.text)
    (values : List Scalar) : (matchValues column values).MarkFree := by
  have htexts : (matchValues column values).texts = [column.text] := by
    unfold matchValues
    split <;> rfl
  intro s hs
  rw [htexts] at hs
  rcases List.mem_singleton.1 hs with rfl
  exact hcolumn

theorem markFree_fixedPredicates {label : String} (hlabel : NoMark label)
    {fixed : List FixedCondition} (hfixed : ∀ c ∈ fixed, NoMark c.column) :
    ∀ p ∈ fixedPredicates label fixed, p.MarkFree := by
  intro p hp s hs
  obtain ⟨c, hc, rfl⟩ := List.mem_map.1 hp
  rcases List.mem_singleton.1 hs with rfl
  exact (noMark_columnText _).2 ⟨hlabel, hfixed c hc⟩

theorem markFree_hasAll {column : Column} (hcolumn : NoMark column.text) (values : List Scalar) :
    (hasAll column values).MarkFree := by
  intro s hs
  rcases List.mem_singleton.1 hs with rfl
  exact hcolumn

/-- A column's filter writes its column and its fixed conditions. -/
theorem MarkFree.columnClauses (h : listing.MarkFree) {column : EntityColumn}
    {fixed : List FixedCondition} (hcolumn : NoMark column.name)
    (hfixed : ∀ c ∈ fixed, NoMark c.column) (quantifier : Quantifier) (values : List Scalar) :
    (listing.columnClauses column fixed quantifier values).MarkFree := by
  have hqualified := h.qualify hcolumn
  refine ⟨?_, ?_⟩
  · exact List.forall_mem_cons.2 ⟨markFree_matchValues hqualified values,
      markFree_fixedPredicates (h.label column.side) hfixed⟩
  · intro p hp
    simp only [Listing.columnClauses] at hp
    split at hp
    · rcases List.mem_singleton.1 hp with rfl
      exact markFree_hasAll hqualified values
    · exact absurd hp (by simp)

/-- A junction's filter writes the junction's texts and the outer id. -/
theorem MarkFree.junctionPredicate (h : listing.MarkFree) {j : Junction} (hj : j.MarkFree)
    (quantifier : Quantifier) (values : List Scalar) :
    (listing.junctionPredicate j quantifier values).MarkFree := by
  have hname : NoMark j.table.name := hj.table _ (by simp [Table.texts])
  have houter : NoMark (listing.entity.qualify (.onBase j.idColumn)).text := h.qualify hj.idColumn
  have hconditions : ∀ s ∈ Predicate.textsOfAll
      (matchValues j.value values :: fixedPredicates j.table.label j.fixed), NoMark s := by
    rw [Predicate.textsOfAll_eq_flatMap]
    intro s hs
    obtain ⟨p, hp, hs⟩ := List.mem_flatMap.1 hs
    rcases List.mem_cons.1 hp with rfl | hp
    · exact markFree_matchValues hj.value values s hs
    · exact markFree_fixedPredicates hj.label hj.fixed p hp s hs
  intro s hs
  simp only [Listing.junctionPredicate, Predicate.texts, List.mem_append, List.mem_cons] at hs
  rcases hs with ((rfl | rfl | rfl | rfl | hs) | hs) | hs
  · exact hname
  · exact hj.label
  · exact hj.id
  · exact houter
  · exact hconditions s hs
  · -- grouped by the id, if at all
    split at hs
    · rcases List.mem_singleton.1 hs with rfl
      exact hj.id
    · exact absurd hs (by simp)
  · split at hs
    · exact markFree_hasAll hj.value values s hs
    · exact absurd hs (by simp [Predicate.havingTexts])

theorem markFree_anyOf {terms : List (Predicate Column)} (h : ∀ p ∈ terms, p.MarkFree) :
    (Predicate.anyOf terms).MarkFree := by
  intro s hs
  rw [Predicate.texts, Predicate.textsOfAll_eq_flatMap] at hs
  obtain ⟨p, hp, hs⟩ := List.mem_flatMap.1 hs
  exact h p hp s hs

theorem markFree_like {column : Column} (hcolumn : NoMark column.text) (pattern : Scalar) :
    (Predicate.like column pattern).MarkFree := by
  intro s hs
  rcases List.mem_singleton.1 hs with rfl
  exact hcolumn

/-- Each kind of filter writes its target's texts, and a rule what it was given. -/
theorem MarkFree.filterClauses (h : listing.MarkFree) {key : String} {filter : Filter}
    (hf : listing.filters.get? key = some filter) (quantifier : Quantifier) (value : FilterValue) :
    (listing.filterClauses filter quantifier value).MarkFree := by
  have htexts : ∀ s ∈ filter.target.texts, NoMark s := fun s hs =>
    h.filter ((OrderedMap.get?_eq_some_iff _ _ _).1 hf) s (by simp [Filter.texts, hs])
  unfold Listing.filterClauses
  rcases htarget : filter.target with ⟨column, fixed⟩ | j | column | ⟨column, rule⟩
  · rw [htarget] at htexts
    have hfixed : ∀ c ∈ fixed, NoMark c.column := by
      intro c hc
      refine htexts _ ?_
      simp only [FilterTarget.texts, List.mem_cons, List.mem_map]
      exact .inr ⟨c, hc, rfl⟩
    exact h.columnClauses (htexts _ (by simp [FilterTarget.texts])) hfixed _ _
  · rw [htarget] at htexts
    have hj : j.MarkFree := Junction.markFree_of_texts htexts
    exact .ofConditions (List.forall_mem_singleton.2 (h.junctionPredicate hj _ _))
  · rw [htarget] at htexts
    have hname : NoMark column.name := htexts _ (by simp [FilterTarget.texts])
    have hcolumn := h.qualify hname
    refine .ofConditions ?_
    -- of the scalars only the first is a pattern
    rcases value.toList with _ | ⟨pattern, rest⟩
    · exact fun p hp => absurd hp (by simp [Listing.substringPredicates])
    · refine List.forall_mem_singleton.2 (markFree_anyOf ?_)
      exact List.forall_mem_singleton.2 (markFree_like hcolumn pattern)
  · rw [htarget] at htexts
    have hname : NoMark column.name := htexts _ (by simp [FilterTarget.texts])
    have hcolumn := h.qualify hname
    exact .ofConditions (h.rules key filter column rule hf htarget _ value hcolumn)

end Listing

/-! ### Selections -/

namespace Selection

variable {listing : Listing}

/-- Under each key there is one filter's clauses, or nothing. -/
theorem markFree_clausesAt (h : listing.MarkFree) (s : Selection) (key : String)
    (value : FilterValue) : (s.clausesAt listing key value).MarkFree := by
  unfold clausesAt
  rcases hf : listing.filters.get? key with _ | filter
  · exact .empty
  · show Clauses.MarkFree (if value.isEmpty then .empty else _)
    split
    · exact .empty
    · exact h.filterClauses hf _ value

theorem markFree_searchClauses (h : listing.MarkFree) (s : Selection) :
    (s.searchClauses listing).MarkFree := by
  unfold searchClauses
  rcases s.search with _ | search
  · exact .empty
  · -- every column searched belongs to a filter
    have hcolumns : ∀ c ∈ searchColumns listing search.keys, NoMark c.text := by
      intro c hc
      obtain ⟨key, -, hc⟩ := List.mem_filterMap.1 hc
      obtain ⟨column, hcolumn, rfl⟩ := Option.map_eq_some_iff.1 hc
      obtain ⟨filter, hf, hsearch⟩ := Option.bind_eq_some_iff.1 hcolumn
      have htexts : ∀ s ∈ filter.target.texts, NoMark s := fun s hs =>
        h.filter ((OrderedMap.get?_eq_some_iff _ _ _).1 hf) s (by simp [Filter.texts, hs])
      unfold Filter.searchColumn at hsearch
      rcases htarget : filter.target with ⟨c, fixed⟩ | j | c | ⟨c, rule⟩ <;>
        rw [htarget] at hsearch htexts <;> cases hsearch
      · exact h.qualify (htexts _ (by simp [FilterTarget.texts]))
      · exact h.qualify (htexts _ (by simp [FilterTarget.texts]))
    dsimp only
    split
    · exact .empty
    · refine .ofConditions (List.forall_mem_singleton.2 (Listing.markFree_anyOf ?_))
      intro p hp
      obtain ⟨c, hc, rfl⟩ := List.mem_map.1 hp
      exact Listing.markFree_like (hcolumns c hc) _

/-- So a selection compiles to nothing with a mark. -/
theorem markFree_clauses (h : listing.MarkFree) (s : Selection) :
    (s.clauses listing).MarkFree := by
  -- first block by block, then the search
  have hblocks : ∀ b ∈ s.blocks listing, b.MarkFree := by
    intro b hb
    obtain ⟨e, -, rfl⟩ := List.mem_map.1 hb
    exact markFree_clausesAt h s e.1 e.2
  have hsearch := markFree_searchClauses h s
  refine ⟨?_, ?_⟩
  · rw [conditions_clauses]
    refine List.forall_mem_append.2 ⟨fun p hp => ?_, hsearch.conditions⟩
    obtain ⟨b, hb, hp⟩ := List.mem_flatMap.1 hp
    exact (hblocks b hb).conditions p hp
  · rw [having_clauses]
    refine List.forall_mem_append.2 ⟨fun p hp => ?_, hsearch.having⟩
    obtain ⟨b, hb, hp⟩ := List.mem_flatMap.1 hp
    exact (hblocks b hb).having p hp

end Selection

/-! ### The statement -/

namespace Listing

variable {listing : Listing}

/-- The head writes its items and its source. -/
theorem noMark_headText {s : Select} {backend : Backend}
    (hitems : ∀ item ∈ s.items, NoMark (item.text backend)) (hsource : NoMark s.source.text) :
    NoMark (s.headText backend) := by
  have hlist : NoMark (", ".intercalate (s.items.map (·.text backend))) := by
    refine noMark_intercalate (by decide) fun t ht => ?_
    obtain ⟨item, hitem, rfl⟩ := List.mem_map.1 ht
    exact hitems item hitem
  simp only [Select.headText, noMark_append]
  exact ⟨⟨⟨by decide, hlist⟩, by decide⟩, hsource⟩

theorem noMark_orderText {terms : List SortTerm} (h : ∀ t ∈ terms, NoMark t.text) :
    NoMark (orderText terms) := by
  refine noMark_intercalate (by decide) fun s hs => ?_
  obtain ⟨t, ht, rfl⟩ := List.mem_map.1 hs
  exact h t ht

/-- A listing free of marks writes statements free of marks, whatever the request. -/
theorem markFree_select (h : listing.MarkFree) (request : ListRequest) (backend : Backend) :
    (listing.select request).MarkFree backend := by
  have hclauses := Selection.markFree_clauses h request.selection
  obtain ⟨hterms, hselected⟩ := h.orderByChoice request.sort request.alternate
  obtain ⟨htable, hjoins⟩ := h.fromClause request.alternate
  refine ⟨noMark_headText ?_ ?_, hclauses.conditions, h.group, hclauses.having,
    noMark_orderText hterms⟩
  · -- the base columns, the sorted expression, the contributions and the count
    intro item hitem
    simp only [select, List.cons_append, List.mem_cons, List.mem_append, List.mem_map,
      Option.mem_toList, Option.map_eq_some_iff, List.not_mem_nil, or_false] at hitem
    rcases hitem with rfl | (⟨e, he, rfl⟩ | ⟨c, hc, rfl⟩) | rfl
    · show NoMark (listing.entity.table.label ++ ".*")
      rw [noMark_append]
      exact ⟨h.label .base, by decide⟩
    · exact hselected e he
    · exact (h.contributions hc backend).1
    · show NoMark ("COUNT(*) OVER() AS " ++ totalCountColumn)
      decide
  · -- the joins of the driving table come first, then those of the contributions
    refine FromClause.noMark_text htable fun j hj => ?_
    rcases List.mem_append.1 hj with hj | hj
    · exact hjoins j hj
    · obtain ⟨c, hc, hjoin⟩ := List.mem_filterMap.1 (mem_of_mem_firstPerLabel hj)
      exact (h.contributions hc backend).2 j hjoin

end Listing

end Compendium
