import Compendium.Schema
import Compendium.Statement.Fragment

/-!
# Compendium — predicates

Conditions on rows and on groups of rows, as trees, and the SQL that they read as. A predicate is
written over columns of any type `κ` whose values have a text: compiled predicates use qualified
columns, and a predicate over `String` has its columns spelled out.

Values that come from a request stand in holes. The values that a declaration fixes, being part of
the program, are written into the text. `holeCount` counts the holes from the tree alone.
-/

namespace Compendium

/-- Columns have a text in SQL. -/
class ColumnText (κ : Type) where
  text : κ → String

instance : ColumnText String := ⟨id⟩
instance : ColumnText Column := ⟨Column.text⟩

inductive Predicate (κ : Type) where
  | eq (column : κ) (value : Scalar)
  | like (column : κ) (pattern : Scalar)
  | isIn (column : κ) (values : List Scalar)
  | fixed (column : κ) (value : Int64)
  /-- The group has `count` different values in the column. -/
  | countDistinct (column : κ) (count : Int64)
  | anyOf (terms : List (Predicate κ))
  /-- Some rows of `table`, with `inner` equal to the outer query's `outer` and all conditions met,
  form a group that satisfies `having`. -/
  | rowExists (table : Table) (inner outer : κ) (conditions : List (Predicate κ))
      (groupBy : Option κ) (having : Option (Predicate κ))

namespace Predicate

variable {κ : Type}

/-- An alternative without terms: no row meets it. -/
instance : Inhabited (Predicate κ) := ⟨anyOf []⟩

/-! ## Counting holes -/

mutual

def holeCount : Predicate κ → Nat
  | eq _ _ => 1
  | like _ _ => 1
  | isIn _ values => values.length
  | fixed _ _ => 0
  | countDistinct _ _ => 1
  | anyOf terms => holeCounts terms
  | rowExists _ _ _ conditions _ having =>
    holeCounts conditions + havingHoleCount having

def holeCounts : List (Predicate κ) → Nat
  | [] => 0
  | p :: ps => p.holeCount + holeCounts ps

def havingHoleCount : Option (Predicate κ) → Nat
  | none => 0
  | some p => p.holeCount

end

/-! ## Reading as SQL -/

def holes (values : List Scalar) : Fragment :=
  Fragment.joined ", " (values.map fun v => [.hole v])

/-- Each fragment with `AND` before it. -/
def andEach (fs : List Fragment) : Fragment :=
  fs.flatMap fun f => .text " AND " :: f

section

variable [ColumnText κ]

open ColumnText (text)

def groupByFragment : Option κ → Fragment
  | none => []
  | some column => [.text (" GROUP BY " ++ text column)]

mutual

def fragment : Predicate κ → Fragment
  | eq column value => [.text (text column ++ " = "), .hole value]
  | like column pattern => [.text (text column ++ " LIKE "), .hole pattern]
  | isIn column values => .text (text column ++ " IN (") :: holes values ++ [.text ")"]
  | fixed column value => [.text (text column ++ " = " ++ toString value.toInt)]
  | countDistinct column count =>
    [.text ("COUNT(DISTINCT " ++ text column ++ ") = "), .hole (.int count)]
  | anyOf terms => .text "(" :: Fragment.joined " OR " (fragments terms) ++ [.text ")"]
  | rowExists table inner outer conditions groupBy having =>
    .text ("EXISTS (SELECT 1 FROM " ++ table.name ++ " " ++ table.label ++ " WHERE "
        ++ text inner ++ " = " ++ text outer)
      :: andEach (fragments conditions) ++ groupByFragment groupBy
      ++ havingFragment having ++ [.text ")"]

def fragments : List (Predicate κ) → List Fragment
  | [] => []
  | p :: ps => p.fragment :: fragments ps

def havingFragment : Option (Predicate κ) → Fragment
  | none => []
  | some p => .text " HAVING " :: p.fragment

end

/-- The companions of a recursion over trees do nothing but go through lists. -/
theorem fragments_eq_map (ps : List (Predicate κ)) : fragments ps = ps.map fragment := by
  induction ps with
  | nil => rfl
  | cons p ps ih => simp [fragments, ih]

/-- All predicates must hold; no predicates read as the empty text. -/
def conjunction (ps : List (Predicate κ)) : Fragment :=
  Fragment.joined " AND " (ps.map fragment)

/-! ### Holes and values

A predicate binds as many values as it has holes, so counting on the tree and collecting from the
text agree. -/

theorem values_holes (values : List Scalar) : (holes values).values = values := by
  induction values with
  | nil => rfl
  | cons v vs ih =>
    simp only [holes, Fragment.values_joined, List.map_cons, List.flatMap_cons] at ih ⊢
    simp [ih]

theorem values_andEach (fs : List Fragment) : (andEach fs).values = fs.flatMap Fragment.values := by
  induction fs with
  | nil => rfl
  | cons f fs ih => simpa [andEach] using ih

@[simp] theorem values_groupByFragment (column : Option κ) :
    (groupByFragment column).values = [] := by
  cases column <;> rfl

mutual

/-- By the forms of a predicate; alternatives and subqueries go through their parts. -/
theorem length_values_fragment : (p : Predicate κ) →
    p.fragment.values.length = p.holeCount
  | eq _ _ => rfl
  | like _ _ => rfl
  | isIn _ values => by simp [fragment, holeCount, values_holes]
  | fixed _ _ => rfl
  | countDistinct _ _ => rfl
  | anyOf terms => by
    simpa [fragment, holeCount, Fragment.values_joined] using
      length_values_fragments terms
  | rowExists _ _ _ conditions _ having => by
    simp [fragment, holeCount, values_andEach, length_values_fragments conditions,
      length_values_havingFragment having]

theorem length_values_fragments : (ps : List (Predicate κ)) →
    ((fragments ps).flatMap Fragment.values).length = holeCounts ps
  | [] => rfl
  | p :: ps => by
    simp [fragments, holeCounts, length_values_fragment p, length_values_fragments ps]

theorem length_values_havingFragment : (having : Option (Predicate κ)) →
    (havingFragment having).values.length = havingHoleCount having
  | none => rfl
  | some p => by simp [havingFragment, havingHoleCount, length_values_fragment p]

end

/-- A conjunction binds what its terms bind, in their order. -/
theorem values_conjunction (ps : List (Predicate κ)) :
    (conjunction ps).values = ps.flatMap fun p => p.fragment.values := by
  simp [conjunction, Fragment.values_joined, List.flatMap_map]

end

end Predicate

end Compendium
