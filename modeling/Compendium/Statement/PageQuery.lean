import Compendium.Lookup.Basic
import Compendium.Request.ListRequest
import Compendium.Statement.Clauses
import Compendium.Statement.Select

/-!
# Compendium — page queries

A valid request for a listing comes to one select statement. The base table or the alternate table
drives it; the joins of the aggregates and of the summaries follow, each label introduced once; the
selection restricts it, and one group is one entity.
-/

namespace Compendium

inductive QueryFailure where
  | lookup (error : LookupError)
  | invalidRequest (errors : List ParamError)
  /-- The backend does not take question marks for values. -/
  | unsupportedBackend (backend : Backend)
deriving DecidableEq, Repr

def Backend.name : Backend → String
  | sqlite => "Sqlite"
  | mysql => "MySql"
  | postgres => "Postgres"

def QueryFailure.message : QueryFailure → String
  | lookup error => error.message
  | invalidRequest errors =>
    "request rejected with " ++ toString errors.length ++ " filter error(s)"
  | unsupportedBackend backend =>
    backend.name ++ " backend is not supported; queries use `?` placeholders"

/-! ## The driving table -/

/-- The entity's tables with the alternate one in the lead, or the base table. Without an alternate
table there is only the base table. -/
def Entity.fromClause (entity : Entity) (alternate : Bool) : FromClause :=
  match entity.alternate with
  | none => ⟨entity.table, []⟩
  | some alt =>
    let baseId : Column := ⟨entity.table.label, alt.joinColumn⟩
    let alternateId : Column := ⟨alt.table.label, alt.joinColumn⟩
    if alternate then ⟨alt.table, [⟨.inner, entity.table, alternateId, baseId, []⟩]⟩
    else ⟨entity.table, [⟨.left, alt.table, baseId, alternateId, alt.fixed⟩]⟩

/-! ## Aggregates and summaries -/

/-- A select item and the join that it needs, if any. -/
structure Contribution where
  item : SelectItem
  join : Option Join

namespace Listing

/-- The column that an aggregate lists, and the join that brings it in. -/
def aggregateSource (listing : Listing) (target : FilterTarget) : Column × Option Join :=
  match target with
  | .junction j =>
    (j.value, some ⟨.left, j.table, ⟨listing.entity.table.label, j.idColumn⟩, j.id, j.fixed⟩)
  | .column column _ => (listing.entity.qualify column, none)
  | .substring column => (listing.entity.qualify column, none)
  | .rule column _ => (listing.entity.qualify column, none)

def aggregateContribution (listing : Listing) (filter : Filter) : Option Contribution :=
  filter.aggregate.map fun aggregate =>
    let (column, join) := listing.aggregateSource filter.target
    ⟨.values column (aggregate.paired.map (Column.mk column.table)) aggregate.label, join⟩

def summaryContribution (listing : Listing) (summary : Summary) : Contribution where
  item := .summary summary.kind ⟨summary.table.label, summary.column⟩ summary.label
  join := some ⟨.left, summary.table, listing.entity.group,
    ⟨summary.table.label, summary.parentColumn⟩, []⟩

/-- The filters' aggregates in order, then the summaries. -/
def contributions (listing : Listing) : List Contribution :=
  listing.filters.toList.filterMap (fun (_, filter) => listing.aggregateContribution filter)
    ++ listing.summaries.map listing.summaryContribution

end Listing

/-- Of the joins that introduce one label, the first. -/
def firstPerLabel : List Join → List Join
  | [] => []
  | j :: js => j :: (firstPerLabel js).filter (·.table.label ≠ j.table.label)

theorem mem_of_mem_firstPerLabel {j : Join} {js : List Join} (h : j ∈ firstPerLabel js) :
    j ∈ js := by
  induction js with
  | nil => exact h
  | cons j' js ih =>
    rcases List.mem_cons.1 h with rfl | h
    · exact List.mem_cons_self
    · exact List.mem_cons_of_mem _ (ih (List.mem_filter.1 h).1)

/-- A label is introduced once. -/
theorem nodup_firstPerLabel (js : List Join) :
    ((firstPerLabel js).map (·.table.label)).Nodup := by
  induction js with
  | nil => simp [firstPerLabel]
  | cons j js ih =>
    have hsub : ((firstPerLabel js).filter (·.table.label ≠ j.table.label)).map (·.table.label)
        |>.Sublist ((firstPerLabel js).map (·.table.label)) :=
      (List.filter_sublist).map _
    refine List.nodup_cons.2 ⟨?_, hsub.nodup ih⟩
    simp

/-! ## The statement -/

structure PageQuery where
  select : Select
  backend : Backend
  /-- The alternate table drives the query. -/
  alternate : Bool

namespace PageQuery

def fragment (q : PageQuery) : Fragment := q.select.fragment q.backend

def sql (q : PageQuery) : String := q.fragment.sql

def values (q : PageQuery) : List Scalar := q.fragment.values

def statement (q : PageQuery) : DbStatement := ⟨q.sql, some q.values⟩

end PageQuery

namespace Listing

def select (listing : Listing) (request : ListRequest) : Select :=
  let clauses := request.selection.clauses listing
  let order := listing.orderByChoice request.sort request.alternate
  let contributions := listing.contributions
  let driving := listing.entity.fromClause request.alternate
  { items := .allOf listing.entity.table.label
      :: (order.selected.map SelectItem.sorted).toList
      ++ contributions.map (·.item) ++ [.totalCount]
    source := { driving with
      joins := driving.joins ++ firstPerLabel (contributions.filterMap (·.join)) }
    conditions := clauses.conditions
    groupBy := listing.entity.group
    having := clauses.having
    orderBy := order.terms
    limit := Word.toParam request.pagination.limit
    offset := Word.toParam request.pagination.offset }

/-- A request with errors has no query, whatever the backend. -/
def pageQuery (listing : Listing) (request : ListRequest) (backend : Backend) :
    Except QueryFailure PageQuery :=
  if !request.isValid then .error (.invalidRequest request.errors)
  else if backend = .postgres then .error (.unsupportedBackend backend)
  else .ok ⟨listing.select request, backend, request.alternate⟩

/-- What a valid request comes to on a backend that takes question marks. -/
theorem pageQuery_of_isValid {listing : Listing} {request : ListRequest} (h : request.isValid)
    {backend : Backend} (hb : backend ≠ .postgres) :
    listing.pageQuery request backend
      = .ok ⟨listing.select request, backend, request.alternate⟩ := by
  simp [pageQuery, h, hb]

/-- Postgres is refused once the request is known to be valid. -/
theorem pageQuery_postgres {listing : Listing} {request : ListRequest} (h : request.isValid) :
    listing.pageQuery request .postgres = .error (.unsupportedBackend .postgres) := by
  simp [pageQuery, h]

end Listing

end Compendium
