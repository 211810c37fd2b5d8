import Compendium.OrderedMap
import Compendium.Scalar
import Compendium.Text.Quoted

/-!
# Compendium — database sessions

Statements go to a database and come back as rows or as a failure. In the rows of a `ResultSet` no
two cells have one name. A `Session` is the database seen through its answers: the n-th statement
gets the n-th answer still to come, and the statements issued are kept in order. When no answer is
left every statement fails.
-/

namespace Compendium

inductive Cell where
  | null
  | bool (value : Bool)
  | int (value : Int64)
  | text (value : String)
deriving DecidableEq, Repr, Inhabited

/-- Cells by the names of their columns. -/
abbrev Row := List (String × Cell)

inductive DbError where
  | custom (text : String)
  /-- A column that must hold an integer is absent or holds something else. -/
  | undecodable (column : String)
deriving DecidableEq, Repr

def DbError.message : DbError → String
  | custom text => "Custom Error: " ++ text
  | undecodable column =>
    "Type Error: A null value was encountered while decoding " ++ Text.quoted column

namespace Row

def int (row : Row) (column : String) : Except DbError Int64 :=
  match row.lookup column with
  | some (.int value) => .ok value
  | _ => .error (.undecodable column)

/-- Absent, null and not a text are the same here. -/
def text? (row : Row) (column : String) : Option String :=
  match row.lookup column with
  | some (.text value) => some value
  | _ => none

def without (row : Row) (column : String) : Row :=
  row.filter (·.1 ≠ column)

end Row

/-- The rows that a statement gives; no name stands for two cells of a row. -/
structure ResultSet where
  rows : List Row
  nodup_names : ∀ row ∈ rows, (row.map Prod.fst).Nodup
deriving DecidableEq, Repr

namespace ResultSet

/-- Rows as they come; of the cells with one name in a row the last is kept, in the place of the
first. -/
def ofRows (rows : List Row) : ResultSet where
  rows := rows.map fun row => (OrderedMap.ofList row).toList
  nodup_names row hrow := by
    obtain ⟨cells, -, rfl⟩ := List.mem_map.1 hrow
    exact (OrderedMap.ofList cells).nodup_keys

instance : Coe (List Row) ResultSet := ⟨ofRows⟩
instance : CoeOut ResultSet (List Row) := ⟨rows⟩

/-- Rows in which no name stands twice are kept as they are. -/
theorem rows_ofRows {rows : List Row} (h : ∀ row ∈ rows, (row.map Prod.fst).Nodup) :
    (ofRows rows).rows = rows := by
  have hrow : ∀ row ∈ rows, (OrderedMap.ofList row).toList = id row := fun row hrow =>
    OrderedMap.toList_ofList (h row hrow)
  calc rows.map (fun row => (OrderedMap.ofList row).toList)
    _ = rows.map id := List.map_congr_left hrow
    _ = rows := rows.map_id

/-- The rows without the cells of a column. -/
def without (s : ResultSet) (column : String) : ResultSet where
  rows := s.rows.map (·.without column)
  nodup_names row hrow := by
    obtain ⟨cells, hcells, rfl⟩ := List.mem_map.1 hrow
    exact (s.nodup_names cells hcells).sublist (List.filter_sublist.map _)

end ResultSet

/-- A statement as it is sent. Plain SQL carries no list of values. -/
structure DbStatement where
  sql : String
  values : Option (List Scalar)
deriving DecidableEq, Repr

abbrev DbAnswer := Except DbError ResultSet

structure Session where
  answers : List DbAnswer
  issued : List DbStatement

namespace Session

def ofAnswers (answers : List DbAnswer) : Session := ⟨answers, []⟩

def exhausted : DbError := .custom "script exhausted"

/-- Send one statement. -/
def query (session : Session) (statement : DbStatement) : DbAnswer × Session :=
  (session.answers.headD (.error exhausted),
    ⟨session.answers.tail, session.issued ++ [statement]⟩)

end Session

end Compendium
