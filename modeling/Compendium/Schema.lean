/-!
# Compendium — tables and columns

The database as statements name it. A table goes by a label, and a column is named by the label of
its table. An entity has a base table and may have an alternate one, a mapping table with any number
of rows for one entity, that can drive the query in the base table's place. Declarations say only on
which side a column lies, and `Entity.qualify` finds the label.
-/

namespace Compendium

structure Table where
  name : String
  label : String
deriving DecidableEq, Repr, Inhabited

/-- A column of the table that goes by the label `table`. -/
structure Column where
  table : String
  name : String
deriving DecidableEq, Repr, Inhabited

def Column.text (c : Column) : String := c.table ++ "." ++ c.name

inductive Side where
  | base
  | alternate
deriving DecidableEq, Repr, Inhabited

/-- A column of one of an entity's two tables. -/
structure EntityColumn where
  side : Side
  name : String
deriving DecidableEq, Repr, Inhabited

namespace EntityColumn

def onBase (name : String) : EntityColumn := ⟨.base, name⟩
def onAlternate (name : String) : EntityColumn := ⟨.alternate, name⟩

end EntityColumn

/-- A condition that a declaration puts on a table whatever the request: `column = value`. -/
structure FixedCondition where
  column : String
  value : Int64
deriving DecidableEq, Repr, Inhabited

/-- `joinColumn` holds the same id in both tables. `fixed` restricts the rows that are joined to a
base row; it does not apply when the alternate table drives the query. -/
structure AlternateTable where
  table : Table
  joinColumn : String
  fixed : List FixedCondition
deriving DecidableEq, Repr, Inhabited

/-- Where an entity's rows are, the column that tells entities apart, and the sort key of a list
that nobody sorted. -/
structure Entity where
  table : Table
  alternate : Option AlternateTable
  groupColumn : String
  defaultSort : String
deriving DecidableEq, Repr, Inhabited

namespace Entity

/-- The label of a side; without an alternate table both sides are the base table. -/
def label (entity : Entity) : Side → String
  | .base => entity.table.label
  | .alternate => (entity.alternate.map (·.table.label)).getD entity.table.label

def qualify (entity : Entity) (column : EntityColumn) : Column :=
  ⟨entity.label column.side, column.name⟩

def group (entity : Entity) : Column := ⟨entity.table.label, entity.groupColumn⟩

end Entity

end Compendium
