import Compendium.Statement.Predicate

/-!
# Compendium — filters

What a list can be filtered by. A filter aims at a column of one of the entity's tables, at the rows
of a junction table, at the texts of a column that contain the value, or follows a rule of its own.
It says what type of value it takes, whether it takes several and whether a request may ask for all
of them at once, and which lookup its values go through. It gives the lookup by its name, and the
names of lookups are taken to be distinct (`LookupSet`).
-/

namespace Compendium

inductive ValueType where
  | string
  | int
  | boolean
deriving DecidableEq, Repr, Inhabited

/-- Rows of `table` that share `idColumn` with the base table and carry values in `valueColumn`. -/
structure Junction where
  table : Table
  idColumn : String
  valueColumn : String
  fixed : List FixedCondition
deriving DecidableEq, Repr, Inhabited

namespace Junction

def id (j : Junction) : Column := ⟨j.table.label, j.idColumn⟩

def value (j : Junction) : Column := ⟨j.table.label, j.valueColumn⟩

end Junction

/-- The predicates that a value puts on a column. -/
abbrev FilterRule := Column → FilterValue → List (Predicate Column)

inductive FilterTarget where
  | column (column : EntityColumn) (fixed : List FixedCondition)
  | junction (junction : Junction)
  | substring (column : EntityColumn)
  | rule (column : EntityColumn) (rule : FilterRule)

/-- The values that all rows of an entity have in the filter's column, selected as one text; each
paired with the value of another column of its row if `paired` names one. -/
structure Aggregate where
  paired : Option String
  label : String
deriving DecidableEq, Repr, Inhabited

structure Filter where
  target : FilterTarget
  valueType : ValueType
  takesMany : Bool
  /-- A request may ask for all of several values. -/
  takesLogic : Bool
  /-- A value for this filter makes the alternate table drive the query. -/
  switchesBase : Bool
  /-- The name of the lookup that turns texts into ids. -/
  lookup : Option String
  aggregate : Option Aggregate

namespace Filter

/-! ## Declaring -/

/-- A filter of one value and nothing more. -/
def ofTarget (target : FilterTarget) (valueType : ValueType) : Filter :=
  ⟨target, valueType, false, false, false, none, none⟩

def onColumn (column : EntityColumn) : Filter := ofTarget (.column column []) .int

def onJunction (junction : Junction) : Filter := ofTarget (.junction junction) .int

def onSubstring (column : EntityColumn) : Filter := ofTarget (.substring column) .string

def byRule (column : EntityColumn) (rule : FilterRule) : Filter :=
  ofTarget (.rule column rule) .int

/-- Put fixed conditions on the filtered table. Only a column or a junction has room for them. -/
def fix (f : Filter) (conditions : List FixedCondition) : Filter :=
  match f.target with
  | .column column _ => { f with target := .column column conditions }
  | .junction j => { f with target := .junction { j with fixed := conditions } }
  | .substring _ => f
  | .rule _ _ => f

/-! ## Asking -/

def isSubstring (f : Filter) : Bool :=
  match f.target with
  | .substring _ => true
  | _ => false

/-- Only a column or a junction can be matched with several values. -/
def canTakeMany (f : Filter) : Bool :=
  match f.target with
  | .column _ _ => true
  | .junction _ => true
  | .substring _ => false
  | .rule _ _ => false

/-- The column that a search over several filters looks into. -/
def searchColumn (f : Filter) : Option EntityColumn :=
  match f.target with
  | .column column _ => some column
  | .substring column => some column
  | .junction _ => none
  | .rule _ _ => none

def needsAlternate (f : Filter) : Bool :=
  match f.target with
  | .column column _ => column.side = .alternate
  | .substring column => column.side = .alternate
  | .rule column _ => column.side = .alternate
  | .junction _ => false

end Filter

end Compendium
