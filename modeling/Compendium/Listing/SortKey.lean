import Compendium.Schema

/-!
# Compendium — sort keys and summaries

What a list can be sorted by, and the numbers about child rows that are listed with each entity.
-/

namespace Compendium

inductive Extremum where
  | min
  | max
deriving DecidableEq, Repr, Inhabited

/-- A column to sort by, or its extremum in the group. With a label it is also selected under it. -/
structure SortSource where
  column : EntityColumn
  extremum : Option Extremum
  label : Option String
deriving DecidableEq, Repr, Inhabited

def SortSource.ofColumn (column : EntityColumn) : SortSource := ⟨column, none, none⟩

/-- `alternate` takes the place of `base` while the alternate table drives the query. -/
structure SortKey where
  name : String
  base : SortSource
  alternate : Option SortSource
deriving DecidableEq, Repr, Inhabited

namespace SortKey

def ofColumn (name : String) (column : EntityColumn) : SortKey := ⟨name, .ofColumn column, none⟩

def needsAlternate (k : SortKey) : Bool :=
  k.base.column.side = .alternate
    || (match k.alternate with
      | some source => source.column.side = .alternate
      | none => false)

end SortKey

inductive SummaryKind where
  /-- How many different values the children have. -/
  | count
  /-- One more than their largest value, 0 if there is none. -/
  | nextIndex
deriving DecidableEq, Repr, Inhabited

/-- A number computed from an entity's rows in a child table. -/
structure Summary where
  table : Table
  parentColumn : String
  column : String
  kind : SummaryKind
  label : String
deriving DecidableEq, Repr, Inhabited

end Compendium
