import Compendium.Statement.Predicate
import Compendium.Sorting

/-!
# Compendium — select statements

A page query as a tree: what is selected, from which tables and joins, the conditions on rows and
on groups, the order and the window of groups that is wanted. `Select.fragment` is its SQL; the
values come in the order of the holes, those of the conditions first, then those of `HAVING`, the
limit and the offset.
-/

namespace Compendium

/-- The dialects of SQL that differ in how they write a pair. -/
inductive Backend where
  | sqlite
  | mysql
  | postgres
deriving DecidableEq, Repr, Inhabited

/-- The two columns as one text, with a colon between. -/
def Backend.pair (backend : Backend) (left right : Column) : String :=
  match backend with
  | .sqlite => left.text ++ " || ':' || " ++ right.text
  | .mysql | .postgres => "CONCAT(" ++ left.text ++ ", ':', " ++ right.text ++ ")"

inductive SelectItem where
  | allOf (label : String)
  | sorted (expr : LabelledExpr)
  /-- The different values of a column in the group, or its pairs with those of another. -/
  | values (column : Column) (paired : Option Column) (label : String)
  | summary (kind : SummaryKind) (column : Column) (label : String)
  /-- The number of groups, whatever the window. -/
  | totalCount
deriving DecidableEq, Repr

def totalCountColumn : String := "total_count"

def SelectItem.text (backend : Backend) : SelectItem → String
  | allOf label => label ++ ".*"
  | sorted expr => expr.text
  | values column none label => "GROUP_CONCAT(DISTINCT " ++ column.text ++ ") AS " ++ label
  | values column (some paired) label =>
    "GROUP_CONCAT(DISTINCT " ++ backend.pair column paired ++ ") AS " ++ label
  | summary .count column label => "COUNT(DISTINCT " ++ column.text ++ ") AS " ++ label
  | summary .nextIndex column label => "COALESCE(MAX(" ++ column.text ++ ") + 1, 0) AS " ++ label
  | totalCount => "COUNT(*) OVER() AS " ++ totalCountColumn

inductive JoinKind where
  | inner
  | left
deriving DecidableEq, Repr

/-- The rows of `table` with `left` equal to `right` that meet the fixed conditions. -/
structure Join where
  kind : JoinKind
  table : Table
  left : Column
  right : Column
  fixed : List FixedCondition
deriving DecidableEq, Repr

def fixedText (label : String) (condition : FixedCondition) : String :=
  " AND " ++ (Column.mk label condition.column).text ++ " = " ++ toString condition.value.toInt

namespace Join

def keyword (j : Join) : String :=
  match j.kind with
  | .inner => "JOIN "
  | .left => "LEFT JOIN "

def text (j : Join) : String :=
  j.keyword ++ j.table.name ++ " " ++ j.table.label
    ++ " ON " ++ j.left.text ++ " = " ++ j.right.text
    ++ String.join (j.fixed.map (fixedText j.table.label))

end Join

/-- A table and the joins that follow it. -/
structure FromClause where
  table : Table
  joins : List Join
deriving DecidableEq, Repr

def FromClause.text (f : FromClause) : String :=
  "FROM " ++ f.table.name ++ " " ++ f.table.label
    ++ String.join (f.joins.map fun j => " " ++ j.text)

structure Select where
  items : List SelectItem
  source : FromClause
  conditions : List (Predicate Column)
  groupBy : Column
  having : List (Predicate Column)
  orderBy : List SortTerm
  limit : Int64
  offset : Int64

namespace Select

/-- A keyword and what it introduces, or neither. -/
def clause (keyword : String) : Fragment → Fragment
  | [] => []
  | body => .text keyword :: body

def headText (s : Select) (backend : Backend) : String :=
  "SELECT " ++ ", ".intercalate (s.items.map (·.text backend)) ++ " " ++ s.source.text

def fragment (s : Select) (backend : Backend) : Fragment :=
  .text (s.headText backend)
    :: clause " WHERE " (Predicate.conjunction s.conditions)
    ++ .text (" GROUP BY " ++ s.groupBy.text)
    :: clause " HAVING " (Predicate.conjunction s.having)
    ++ [.text (" ORDER BY " ++ orderText s.orderBy), .text " LIMIT ", .hole (.int s.limit),
      .text " OFFSET ", .hole (.int s.offset)]

@[simp] theorem values_clause (keyword : String) (f : Fragment) :
    (clause keyword f).values = f.values := by
  cases f <;> simp [clause]

/-- A statement binds the values of its conditions, of its conditions on groups, and the window. -/
theorem values_fragment (s : Select) (backend : Backend) :
    (s.fragment backend).values
      = s.conditions.flatMap (fun p => p.fragment.values)
        ++ s.having.flatMap (fun p => p.fragment.values)
        ++ [.int s.limit, .int s.offset] := by
  simp [fragment, Predicate.values_conjunction]

end Select

end Compendium
