import Compendium.Listing.Declaration
import Compendium.Statement.Predicate
import Compendium.Request.Selection
import Compendium.Word

/-!
# Compendium — clauses

What a selection puts into the `WHERE` and the `HAVING` of a page query. Every value contributes a
block of its own, in the order of the selection, and the search over several columns comes last
(`Selection.clauses`).

A row matches any of several values if it has one of them. To match all of them, the rows that have
one are grouped and must have as many different values as were asked for: in the outer query for a
column of the entity, within the subquery for a junction.
-/

namespace Compendium

structure Clauses where
  conditions : List (Predicate Column)
  having : List (Predicate Column)

namespace Clauses

def empty : Clauses := ⟨[], []⟩

def append (a b : Clauses) : Clauses := ⟨a.conditions ++ b.conditions, a.having ++ b.having⟩

/-- Conditions on rows alone. -/
def ofConditions (ps : List (Predicate Column)) : Clauses := ⟨ps, []⟩

def conditionFragment (c : Clauses) : Fragment := Predicate.conjunction c.conditions

def havingFragment (c : Clauses) : Fragment := Predicate.conjunction c.having

end Clauses

/-! ## One filter -/

def matchValues (column : Column) : List Scalar → Predicate Column
  | [value] => .eq column value
  | values => .isIn column values

def fixedPredicates (label : String) (conditions : List FixedCondition) :
    List (Predicate Column) :=
  conditions.map fun c => .fixed ⟨label, c.column⟩ c.value

/-- Whether a group must have all of several values. -/
def needsAll (quantifier : Quantifier) (values : List Scalar) : Bool :=
  quantifier = .all && 1 < values.length

/-- The group has as many different values in the column as there are in the list. -/
def hasAll (column : Column) (values : List Scalar) : Predicate Column :=
  .countDistinct column (clampInt64 values.length)

namespace Listing

def columnClauses (listing : Listing) (column : EntityColumn) (fixed : List FixedCondition)
    (quantifier : Quantifier) (values : List Scalar) : Clauses :=
  let qualified := listing.entity.qualify column
  { conditions := matchValues qualified values :: fixedPredicates qualified.table fixed
    having := if needsAll quantifier values then [hasAll qualified values] else [] }

def junctionPredicate (listing : Listing) (j : Junction) (quantifier : Quantifier)
    (values : List Scalar) : Predicate Column :=
  .rowExists j.table j.id (listing.entity.qualify (.onBase j.idColumn))
    (matchValues j.value values :: fixedPredicates j.table.label j.fixed)
    (if needsAll quantifier values then some j.id else none)
    (if needsAll quantifier values then some (hasAll j.value values) else none)

/-- The first scalar of the value is the pattern. -/
def substringPredicates (listing : Listing) (column : EntityColumn) :
    List Scalar → List (Predicate Column)
  | [] => []
  | pattern :: _ => [.anyOf [.like (listing.entity.qualify column) pattern]]

def filterClauses (listing : Listing) (filter : Filter) (quantifier : Quantifier)
    (value : FilterValue) : Clauses :=
  match filter.target with
  | .column column fixed => listing.columnClauses column fixed quantifier value.toList
  | .junction j => .ofConditions [listing.junctionPredicate j quantifier value.toList]
  | .substring column => .ofConditions (listing.substringPredicates column value.toList)
  | .rule column rule => .ofConditions (rule (listing.entity.qualify column) value)

end Listing

/-! ## The selection -/

namespace Selection

/-- The block of one value. A key that is no filter and an empty list ask for nothing. -/
def clausesAt (selection : Selection) (listing : Listing) (key : String) (value : FilterValue) :
    Clauses :=
  match listing.filters.get? key with
  | none => .empty
  | some filter =>
    if value.isEmpty then .empty
    else listing.filterClauses filter
      (if filter.takesLogic then selection.quantifier key else .any) value

/-- The columns searched by several filters at once. -/
def searchColumns (listing : Listing) (keys : List String) : List Column :=
  keys.filterMap fun key =>
    ((listing.filters.get? key).bind (·.searchColumn)).map listing.entity.qualify

def searchClauses (selection : Selection) (listing : Listing) : Clauses :=
  match selection.search with
  | none => .empty
  | some search =>
    match searchColumns listing search.keys with
    | [] => .empty
    | columns => .ofConditions [.anyOf (columns.map (.like · (.text search.pattern)))]

/-- The blocks of the values, one by one. -/
def blocks (selection : Selection) (listing : Listing) : List Clauses :=
  selection.values.toList.map fun (key, value) => selection.clausesAt listing key value

def clauses (selection : Selection) (listing : Listing) : Clauses :=
  (selection.blocks listing).foldr Clauses.append (selection.searchClauses listing)

/-- The conditions are those of the blocks in order, then those of the search. -/
theorem conditions_clauses (selection : Selection) (listing : Listing) :
    (selection.clauses listing).conditions
      = (selection.blocks listing).flatMap (·.conditions)
        ++ (selection.searchClauses listing).conditions := by
  unfold clauses
  induction selection.blocks listing with
  | nil => rfl
  | cons b bs ih => simp [Clauses.append, ih]

theorem having_clauses (selection : Selection) (listing : Listing) :
    (selection.clauses listing).having
      = (selection.blocks listing).flatMap (·.having)
        ++ (selection.searchClauses listing).having := by
  unfold clauses
  induction selection.blocks listing with
  | nil => rfl
  | cons b bs ih => simp [Clauses.append, ih]

end Selection

end Compendium
