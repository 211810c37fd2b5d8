import Mathlib.Data.List.Perm.Basic
import Compendium.Proofs.Listing.Accepted
import Compendium.Proofs.Paging.Windows
import Compendium.Proofs.Statement.Marks

/-!
# Compendium — pages partition the result

Each page is a statement of its own, and the database orders the groups anew for each of them. What
makes the pages fit together is that there is only one order: the group column is always among the
terms to sort by, so no two groups are left in a tie.

* `Collation` is what a database makes of the texts to sort by, and `Collation.orders` the order of
  groups that comes of a list of terms.
* `Listing.exists_groupTerm` says that the group column is among the terms, whatever is asked for.
* `pages_partition_groups` puts the order and the windows together.
-/

namespace Compendium

/-- What a database makes of `ORDER BY`: an expression, by its text, has one value for each group,
and values are compared. -/
structure Collation (G V : Type) where
  value : String → G → V
  compare : V → V → Ordering
  transCmp : Std.TransCmp compare

namespace Collation

variable {G V : Type} (c : Collation G V)

/-- The groups by their values of one expression. -/
def compareAt (text : String) : G → G → Ordering :=
  fun g g' => c.compare (c.value text g) (c.value text g')

/-- The expression has different values for different groups. -/
def Distinguishes (text : String) : Prop :=
  ∀ g g', c.compareAt text g g' = .eq → g = g'

def compareBy (t : SortTerm) : G → G → Ordering :=
  match t.direction with
  | .ascending => c.compareAt t.expr.text
  | .descending => fun g g' => c.compareAt t.expr.text g' g

/-- Each term decides between the groups that the terms before it leave in a tie. -/
def orders : List SortTerm → G → G → Ordering
  | [] => fun _ _ => .eq
  | t :: ts => compareLex (c.compareBy t) (orders ts)

/-- The groups stand in an order that the terms allow. -/
def Sorts (terms : List SortTerm) (groups : List G) : Prop :=
  groups.Pairwise fun g g' => c.orders terms g g' ≠ .gt

theorem transCmp_compareAt (text : String) : Std.TransCmp (c.compareAt text) := by
  have := c.transCmp
  unfold compareAt
  exact { eq_swap := Std.OrientedCmp.eq_swap, isLE_trans := Std.TransCmp.isLE_trans }

theorem transCmp_compareBy (t : SortTerm) : Std.TransCmp (c.compareBy t) := by
  have := c.transCmp_compareAt t.expr.text
  unfold compareBy
  rcases t.direction with _ | _
  · exact this
  · exact Std.TransCmp.opposite

theorem transCmp_orders (terms : List SortTerm) : Std.TransCmp (c.orders terms) := by
  induction terms with
  | nil => exact { eq_swap := rfl, isLE_trans := fun _ _ => rfl }
  | cons t ts ih =>
    have := c.transCmp_compareBy t
    have := ih
    exact inferInstanceAs (Std.TransCmp (compareLex (c.compareBy t) (c.orders ts)))

/-- Groups are left in a tie if every single term leaves them in one. -/
theorem orders_eq_iff {terms : List SortTerm} {g g' : G} :
    c.orders terms g g' = .eq ↔ ∀ t ∈ terms, c.compareBy t g g' = .eq := by
  induction terms with
  | nil => simp [orders]
  | cons t ts ih => rw [orders, compareLex_eq_eq, ih, List.forall_mem_cons]

/-- Turning the direction around makes no difference to ties. -/
theorem compareBy_eq_iff {t : SortTerm} {g g' : G} :
    c.compareBy t g g' = .eq ↔ c.compareAt t.expr.text g g' = .eq := by
  have := c.transCmp_compareAt t.expr.text
  unfold compareBy
  rcases t.direction with _ | _
  · exact Iff.rfl
  · exact Std.OrientedCmp.eq_comm

variable {c}

/-- A term that tells all groups apart leaves no tie. -/
theorem orders_eq_iff_of_mem {terms : List SortTerm} {t : SortTerm} (ht : t ∈ terms)
    (hunique : c.Distinguishes t.expr.text) {g g' : G} : c.orders terms g g' = .eq ↔ g = g' := by
  constructor
  · intro heq
    have hterm := c.orders_eq_iff.1 heq t ht
    exact hunique g g' (c.compareBy_eq_iff.1 hterm)
  · rintro rfl
    have := c.transCmp_orders terms
    exact Std.ReflCmp.compare_self

/-- Without ties there is one order only. -/
theorem Sorts.unique {terms : List SortTerm} (hties : ∀ g g', c.orders terms g g' = .eq ↔ g = g')
    {xs ys : List G} (hperm : xs.Perm ys) (hxs : c.Sorts terms xs) (hys : c.Sorts terms ys) :
    xs = ys := by
  have := c.transCmp_orders terms
  refine hperm.eq_of_pairwise ?_ hxs hys
  intro g g' _ _ hle hge
  rw [← hties]
  have hswap : c.orders terms g' g = (c.orders terms g g').swap := Std.OrientedCmp.eq_swap
  -- only a tie lets either group stand before the other
  rcases hcompare : c.orders terms g g' with _ | _ | _
  · rw [hcompare] at hswap
    exact absurd hswap hge
  · rfl
  · exact absurd hcompare hle

end Collation

/-! ## The terms of a statement -/

/-- Whatever is asked for, the group column is among the terms to sort by. -/
theorem Listing.exists_groupTerm (listing : Listing) (choice : SortChoice) (alternate : Bool) :
    ∃ t ∈ (listing.orderByChoice choice alternate).terms,
      t.expr.text = listing.entity.group.text := by
  unfold orderByChoice
  split
  · rename_i key _
    unfold orderBy
    generalize (if alternate then key.alternate.getD key.base else key.base) = source
    by_cases htext : (SortExpr.mk source.extremum (listing.entity.qualify source.column)).text
        = listing.tieBreaker.expr.text
    · -- the tie-breaker is left out only where the key's own expression reads the same
      simp only [if_pos htext]
      exact ⟨_, List.mem_singleton_self _, htext⟩
    · simp only [if_neg htext]
      exact ⟨listing.tieBreaker, by simp, rfl⟩
  · exact ⟨listing.tieBreaker, List.mem_singleton_self _, rfl⟩

/-- The statement ends in sorting by the terms, and the column is one of them. -/
def PageQuery.SortsBy (q : PageQuery) (column : Column) : Prop :=
  (∃ t ∈ q.select.orderBy, t.expr.text = column.text)
    ∧ ∃ front, q.sql = front ++ " ORDER BY " ++ orderText q.select.orderBy ++ " LIMIT ? OFFSET ?"

theorem Select.exists_sql_eq_orderText (s : Select) (backend : Backend) :
    ∃ front, (s.fragment backend).sql
      = front ++ " ORDER BY " ++ orderText s.orderBy ++ " LIMIT ? OFFSET ?" := by
  refine ⟨Fragment.sql (.text (s.headText backend)
      :: clause " WHERE " (Predicate.conjunction s.conditions)
      ++ .text (" GROUP BY " ++ s.groupBy.text)
      :: clause " HAVING " (Predicate.conjunction s.having)), ?_⟩
  rw [fragment, Fragment.sql_append]
  -- what is left after the last clause has one text
  have hlast : Fragment.sql [.text (" ORDER BY " ++ orderText s.orderBy), .text " LIMIT ",
      .hole (.int s.limit), .text " OFFSET ", .hole (.int s.offset)]
      = " ORDER BY " ++ orderText s.orderBy ++ " LIMIT ? OFFSET ?" := by
    simp only [Fragment.sql_text, Fragment.sql_hole]
    rfl
  rw [hlast]
  simp only [String.append_assoc]

namespace Listing

variable {listing : Listing} {request : ListRequest}

/-- Every page query sorts by the group column. -/
theorem sortsBy_group (backend : Backend) :
    PageQuery.SortsBy ⟨listing.select request, backend, request.alternate⟩ listing.entity.group :=
  ⟨listing.exists_groupTerm request.sort request.alternate,
    (listing.select request).exists_sql_eq_orderText backend⟩

/-- The pages of a request have one order. -/
theorem orders_select_eq_iff {G V : Type} {c : Collation G V}
    (hunique : c.Distinguishes listing.entity.group.text) {g g' : G} :
    c.orders (listing.select request).orderBy g g' = .eq ↔ g = g' := by
  obtain ⟨t, ht, htext⟩ := listing.exists_groupTerm request.sort request.alternate
  rw [← htext] at hunique
  exact Collation.orders_eq_iff_of_mem ht hunique

end Listing

/-! ## Pages -/

/-- What a database answers page by page: it sorts the groups by the terms of the page's query, each
time in an order of its own choice, and gives those in the window. -/
def Listing.AnswersPages (listing : Listing) (request : ListRequest) (backend : Backend)
    (limit : UInt64) {G V : Type} (c : Collation G V) (groups : List G)
    (answer : UInt64 → List G) : Prop :=
  ∀ page, 1 ≤ page → ∃ query sorted,
    listing.pageQuery (request.atPage page limit) backend = .ok query ∧ sorted.Perm groups
      ∧ c.Sorts query.select.orderBy sorted ∧ answer page = query.window sorted

section

variable {listing : Listing} {request : ListRequest} {backend : Backend}
  (hvalid : request.isValid) (hbackend : backend ≠ .postgres) {limit : UInt64} {G V : Type}
  {c : Collation G V} (hunique : c.Distinguishes listing.entity.group.text) {groups : List G}
  {answer : UInt64 → List G}

include hvalid hbackend hunique

/-- All pages are windows of one list. -/
theorem exists_sorted_of_answersPages
    (hanswers : listing.AnswersPages request backend limit c groups answer) :
    ∃ sorted : List G, sorted.Perm groups ∧ ∀ page, 1 ≤ page → ∃ query,
      listing.pageQuery (request.atPage page limit) backend = .ok query
        ∧ answer page = query.window sorted := by
  -- the order that was chosen for the first page stands for all of them
  obtain ⟨query, sorted, hquery, hperm, hsorted, -⟩ := hanswers 1 (by decide)
  rw [pageQuery_atPage hvalid hbackend] at hquery
  cases hquery
  refine ⟨sorted, hperm, fun page hpage => ?_⟩
  obtain ⟨query', sorted', hquery', hperm', hsorted', hanswer⟩ := hanswers page hpage
  refine ⟨query', hquery', ?_⟩
  rw [pageQuery_atPage hvalid hbackend] at hquery'
  cases hquery'
  -- the terms are the same on every page, for only the window depends on the page
  have heq : sorted' = sorted := Collation.Sorts.unique
    (fun g g' => Listing.orders_select_eq_iff hunique) (hperm'.trans hperm.symm) hsorted' hsorted
  rw [hanswer, heq]

/-- A group is on one page, and on one page only. -/
theorem existsUnique_page_of_mem (hlimit : 1 ≤ limit) (hgroups : groups.Nodup)
    (hlength : groups.length ≤ maxInt64)
    (hanswers : listing.AnswersPages request backend limit c groups answer) {g : G}
    (hg : g ∈ groups) : ∃! page : UInt64, 1 ≤ page ∧ g ∈ answer page := by
  obtain ⟨sorted, hperm, hwindows⟩ :=
    exists_sorted_of_answersPages hvalid hbackend hunique hanswers
  have hnodup : sorted.Nodup := hperm.nodup_iff.2 hgroups
  -- the place of the group in the one order
  obtain ⟨i, hi⟩ := List.mem_iff_getElem?.1 (hperm.mem_iff.2 hg)
  have hindex : i < sorted.length := (List.getElem?_eq_some_iff.1 hi).1
  have hmax : i < maxInt64 := by
    rw [hperm.length_eq] at hindex
    omega
  -- the group is where its one index is
  have hmem : ∀ page, 1 ≤ page → (g ∈ answer page ↔
      ∃ query, listing.pageQuery (request.atPage page limit) backend = .ok query
        ∧ query.Covers i) := by
    intro page hpage
    obtain ⟨query, hquery, hanswer⟩ := hwindows page hpage
    have hoffset : 0 ≤ query.select.offset.toInt := by
      rw [pageQuery_atPage hvalid hbackend] at hquery
      cases hquery
      show 0 ≤ (clampInt64 _).toInt
      rw [toInt_clampInt64]
      exact Int.natCast_nonneg _
    rw [hanswer, PageQuery.mem_window_iff hoffset, hquery]
    constructor
    · rintro ⟨j, hcovers, hj⟩
      have heq : i = j := (List.getElem?_inj hindex hnodup).1 (hi.trans hj.symm)
      exact ⟨query, rfl, heq ▸ hcovers⟩
    · rintro ⟨query', hquery', hcovers⟩
      cases hquery'
      exact ⟨i, hcovers, hi⟩
  obtain ⟨page, ⟨hpage, hcovers⟩, honly⟩ := existsUnique_page_covers hvalid hbackend hlimit hmax
  refine ⟨page, ⟨hpage, (hmem page hpage).2 hcovers⟩, ?_⟩
  rintro page' ⟨hpage', hg'⟩
  exact honly page' ⟨hpage', (hmem page' hpage').1 hg'⟩

end

/-- Of so many groups as a signed word can count, each index is in the window of one page only,
whatever the limit; the group column is among the terms that a statement sorts by, so a database in
which it tells groups apart has one order of them; and so each group is on one page only. -/
theorem pages_partition_groups {listing : Listing} {request : ListRequest}
    (hvalid : request.isValid) {backend : Backend} (hbackend : backend ≠ .postgres) :
    (∀ limit : UInt64, 1 ≤ limit → ∀ n ≤ maxInt64, ∀ i < n, ∃! page : UInt64, 1 ≤ page
      ∧ ∃ query, listing.pageQuery (request.atPage page limit) backend = .ok query
        ∧ query.Covers i)
    ∧ (∃ query, listing.pageQuery request backend = .ok query
      ∧ query.SortsBy listing.entity.group
      ∧ ∀ (G V : Type) (c : Collation G V), c.Distinguishes listing.entity.group.text →
        Std.TransCmp (c.orders query.select.orderBy)
          ∧ ∀ g g', c.orders query.select.orderBy g g' = .eq ↔ g = g')
    ∧ ∀ limit : UInt64, 1 ≤ limit → ∀ (G V : Type) (c : Collation G V),
      c.Distinguishes listing.entity.group.text → ∀ groups : List G, groups.Nodup →
        groups.length ≤ maxInt64 → ∀ answer : UInt64 → List G,
          listing.AnswersPages request backend limit c groups answer →
            ∀ g ∈ groups, ∃! page : UInt64, 1 ≤ page ∧ g ∈ answer page := by
  refine ⟨?_, ⟨_, Listing.pageQuery_of_isValid hvalid hbackend, ?_, ?_⟩, ?_⟩
  · intro limit hlimit n hn i hi
    exact existsUnique_page_covers hvalid hbackend hlimit (by omega)
  · exact Listing.sortsBy_group backend
  · intro G V c hunique
    exact ⟨c.transCmp_orders _, fun g g' => Listing.orders_select_eq_iff hunique⟩
  · intro limit hlimit G V c hunique groups hgroups hlength answer hanswers g hg
    exact existsUnique_page_of_mem hvalid hbackend hunique hlimit hgroups hlength hanswers hg

/-- Spells by name, from the last. -/
def Spells.byName : ListRequest where
  selection := .empty
  pagination := ⟨1, standardLimit⟩
  sort := ⟨"spell_name", .descending⟩
  errors := []
  alternate := false

/-- Spells that all have the same name. -/
def Spells.sameName : Collation Nat Nat where
  value text id := if text = "sp.spell_id" then id else 0
  compare := compare
  transCmp := inferInstance

theorem Spells.terms_byName {listing : Listing} (h : declaration.build = .ok listing) :
    (listing.orderByChoice byName.sort byName.alternate).terms
        = [⟨⟨none, ⟨"sp", "spell_name"⟩⟩, .descending⟩, ⟨⟨none, ⟨"sp", "spell_id"⟩⟩, .ascending⟩]
      ∧ listing.entity.group.text = "sp.spell_id" := by
  have hterms : (declaration.build.toOption.map fun listing =>
      ((listing.orderByChoice byName.sort byName.alternate).terms, listing.entity.group.text))
      = some ([⟨⟨none, ⟨"sp", "spell_name"⟩⟩, .descending⟩,
          ⟨⟨none, ⟨"sp", "spell_id"⟩⟩, .ascending⟩], "sp.spell_id") := by
    decide +kernel
  have hboth := eq_of_map_toOption h hterms
  exact Prod.mk.inj hboth

/-- The last index of all has its one page when a page takes every group there can be; and of three
spells with the same name two are on the first page and one is on the second. -/
theorem pages_partition_groups_spells :
    ∃ listing, Spells.declaration.build = .ok listing
      ∧ (∃! page : UInt64, 1 ≤ page
        ∧ ∃ query, listing.pageQuery (Spells.byName.atPage page 18446744073709551615) .mysql
            = .ok query ∧ query.Covers 9223372036854775806)
      ∧ ∃ answer : UInt64 → List Nat,
        listing.AnswersPages Spells.byName .mysql 2 Spells.sameName [3, 1, 2] answer
          ∧ answer 1 = [1, 2] ∧ answer 2 = [3]
          ∧ ∀ id ∈ [3, 1, 2], ∃! page : UInt64, 1 ≤ page ∧ id ∈ answer page := by
  obtain ⟨listing, hbuild⟩ := Resource.spells.exists_build
  obtain ⟨hterms, hgroup⟩ := Spells.terms_byName hbuild
  have hvalid : Spells.byName.isValid := rfl
  have hbackend : Backend.mysql ≠ .postgres := by decide
  -- the names do not tell the spells apart, but their keys do
  have hunique : Spells.sameName.Distinguishes listing.entity.group.text := by
    rw [hgroup]
    exact fun id id' h => Std.LawfulEqOrd.eq_of_compare h
  have hanswers : listing.AnswersPages Spells.byName .mysql 2 Spells.sameName [3, 1, 2]
      fun page => PageQuery.window
        ⟨listing.select (Spells.byName.atPage page 2), .mysql, false⟩ [1, 2, 3] := by
    intro page _
    refine ⟨_, [1, 2, 3], pageQuery_atPage hvalid hbackend page 2, by decide, ?_, rfl⟩
    show Spells.sameName.Sorts
      (listing.orderByChoice Spells.byName.sort Spells.byName.alternate).terms [1, 2, 3]
    rw [hterms, Collation.Sorts]
    decide
  obtain ⟨hwindows, -, hpages⟩ := @pages_partition_groups listing _ hvalid _ hbackend
  refine ⟨listing, hbuild, ?_, _, hanswers, by rfl, by rfl, ?_⟩
  · exact hwindows 18446744073709551615 (by decide) maxInt64 (Nat.le_refl _) _ (by decide)
  · exact hpages 2 (by decide) Nat Nat Spells.sameName hunique [3, 1, 2] (by decide) (by decide) _
      hanswers

end Compendium
