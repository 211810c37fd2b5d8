import Mathlib.Data.Finset.Card
import Compendium.Statement.Clauses

/-!
# Compendium — what predicates mean

Predicates read against the contents of a database. A table is a bag of rows, and a row gives every
column a value or none, which stands for `NULL`. A predicate is asked of a row, for which a scope
holds one record per label; `COUNT(DISTINCT …)` is asked of a group of rows.

Only whether a predicate is true matters to `WHERE`, `HAVING` and `EXISTS`, and no predicate negates
another, so `holds` has two values: a comparison with `NULL` does not hold. Two values are equal
only if they are the same scalar. SQLite and MySQL keep a truth value as the integer 0 or 1 and find
`TRUE` equal to 1; here a truth value is equal to no integer (`sameValue`). The two agree wherever a
column holds scalars of the type that it is compared with.

* `Predicate.holds` is the meaning of a predicate, by recursion on its tree.
* `Predicate.holds_rowExists_iff` and `Predicate.holds_rowExists_grouped_iff` open `EXISTS`, without
  a group and with one.
-/

namespace Compendium

/-! ## Databases -/

/-- The value in each column, `none` for `NULL`. -/
abbrev Record := String → Option Scalar

structure Database where
  /-- The rows of a table, equal ones as often as they occur. -/
  rows : String → List Record
  /-- Whether a value is like a pattern. -/
  isLike : Scalar → Scalar → Bool

/-- The record that goes by each label. -/
structure Scope where
  record : String → Record

namespace Scope

def value (scope : Scope) (c : Column) : Option Scalar := scope.record c.table c.name

/-- The scope within a subquery: its table's label hides the same label outside. -/
def bind (scope : Scope) (label : String) (record : Record) : Scope :=
  ⟨fun l => if l = label then record else scope.record l⟩

/-- Within the subquery its label is its own table's record. -/
@[simp] theorem value_bind_self (scope : Scope) (label name : String) (record : Record) :
    (scope.bind label record).value ⟨label, name⟩ = record name := by
  simp [value, bind]

/-- Columns of other tables are as they are outside. -/
theorem value_bind_of_ne (scope : Scope) {label : String} (record : Record) {c : Column}
    (h : c.table ≠ label) : (scope.bind label record).value c = scope.value c := by
  simp [value, bind, h]

end Scope

/-- Whether two values are equal, as `NULL` is to nothing, and a truth value to no integer. -/
def sameValue : Option Scalar → Option Scalar → Bool
  | some a, some b => a == b
  | _, _ => false

theorem sameValue_iff {a b : Option Scalar} :
    sameValue a b ↔ ∃ v, a = some v ∧ b = some v := by
  rcases a with _ | a <;> rcases b with _ | b <;> simp [sameValue]
  exact ⟨Eq.symm, Eq.symm⟩

/-- The different values of a column in a group. -/
def distinctValues (group : List Scope) (c : Column) : Finset Scalar :=
  (group.filterMap (·.value c)).toFinset

/-- A value is counted if some row of the group has it; `NULL` is not. -/
theorem mem_distinctValues {group : List Scope} {c : Column} {v : Scalar} :
    v ∈ distinctValues group c ↔ ∃ s ∈ group, s.value c = some v := by
  simp [distinctValues]

/-- The groups of rows that have the same value in a column. Every row leads to its group, so a
group comes up once for each of its rows. -/
def groupsBy (c : Column) (rows : List Scope) : List (List Scope) :=
  rows.map fun s => rows.filter (·.value c == s.value c)

/-! ## Meaning -/

namespace Predicate

mutual

/-- Whether the predicate holds of a row, or of a group that the row represents. -/
def holds (db : Database) : Predicate Column → List Scope → Scope → Bool
  | eq c v, _, s => (s.value c).any (· == v)
  | like c pattern, _, s => (s.value c).any (db.isLike · pattern)
  | isIn c vs, _, s => (s.value c).any (vs.contains ·)
  | fixed c n, _, s => (s.value c).any (· == .int n)
  | countDistinct c n, group, _ => ((distinctValues group c).card : Int) == n.toInt
  | anyOf terms, group, s => anyHolds db terms group s
  | rowExists table inner outer conditions groupBy having, _, s =>
    let rows := ((db.rows table.name).map (s.bind table.label)).filter fun t =>
      sameValue (t.value inner) (t.value outer) && allHold db conditions [t] t
    -- without `GROUP BY`, a condition on groups is asked of all rows as one group, even of none
    match groupBy with
    | some c => (groupsBy c rows).any fun g => havingHolds db having g (g.headD s)
    | none => havingHolds db having rows (rows.headD s) && (having.isSome || !rows.isEmpty)

def anyHolds (db : Database) : List (Predicate Column) → List Scope → Scope → Bool
  | [], _, _ => false
  | p :: ps, group, s => p.holds db group s || anyHolds db ps group s

def allHold (db : Database) : List (Predicate Column) → List Scope → Scope → Bool
  | [], _, _ => true
  | p :: ps, group, s => p.holds db group s && allHold db ps group s

def havingHolds (db : Database) : Option (Predicate Column) → List Scope → Scope → Bool
  | none, _, _ => true
  | some p, group, s => p.holds db group s

end

/-- The predicate holds of a single row. -/
def holdsAt (p : Predicate Column) (db : Database) (s : Scope) : Prop := p.holds db [s] s

variable {db : Database} {group : List Scope} {s : Scope}

/-! ### Comparisons -/

theorem holds_eq_iff {c : Column} {v : Scalar} :
    (eq c v).holds db group s ↔ s.value c = some v := by
  rw [holds]
  rcases s.value c with _ | w <;> simp

theorem holds_isIn_iff {c : Column} {vs : List Scalar} :
    (isIn c vs).holds db group s ↔ ∃ v ∈ vs, s.value c = some v := by
  rw [holds]
  rcases s.value c with _ | w <;> simp

theorem holds_fixed_iff {c : Column} {n : Int64} :
    (fixed c n).holds db group s ↔ s.value c = some (.int n) := by
  rw [holds]
  rcases s.value c with _ | w <;> simp

theorem holds_countDistinct_iff {c : Column} {n : Int64} :
    (countDistinct c n).holds db group s ↔ ((distinctValues group c).card : Int) = n.toInt := by
  rw [holds, beq_iff_eq]

/-- Conditions stand for their conjunction. -/
theorem allHold_iff {ps : List (Predicate Column)} :
    allHold db ps group s ↔ ∀ p ∈ ps, p.holds db group s := by
  induction ps with
  | nil => simp [allHold]
  | cons p ps ih => rw [allHold, Bool.and_eq_true, ih, List.forall_mem_cons]

/-! ### Subqueries -/

/-- The rows of a subquery, each in the scope that it has within. -/
def subqueryRows (db : Database) (s : Scope) (table : Table) (inner outer : Column)
    (conditions : List (Predicate Column)) : List Scope :=
  ((db.rows table.name).map (s.bind table.label)).filter fun t =>
    sameValue (t.value inner) (t.value outer) && allHold db conditions [t] t

/-- A row of a subquery is a record of its table beside the row outside. -/
theorem mem_subqueryRows {table : Table} {inner outer : Column}
    {conditions : List (Predicate Column)} {t : Scope} :
    t ∈ subqueryRows db s table inner outer conditions ↔
      (∃ r ∈ db.rows table.name, s.bind table.label r = t)
        ∧ sameValue (t.value inner) (t.value outer) ∧ ∀ p ∈ conditions, p.holds db [t] t := by
  rw [subqueryRows, List.mem_filter, List.mem_map, Bool.and_eq_true, allHold_iff]

/-- Without a group, there is some row. -/
theorem holds_rowExists_iff {table : Table} {inner outer : Column}
    {conditions : List (Predicate Column)} :
    (rowExists table inner outer conditions none none).holds db group s ↔
      ∃ t, t ∈ subqueryRows db s table inner outer conditions := by
  -- with no condition on groups, only whether rows are left decides
  have hholds : (rowExists table inner outer conditions none none).holds db group s
      = !(subqueryRows db s table inner outer conditions).isEmpty := by
    rw [holds]
    rfl
  rw [hholds, Bool.not_eq_true', List.isEmpty_eq_false_iff_exists_mem]

/-- With a group, some row's group meets the condition on groups. -/
theorem holds_rowExists_grouped_iff {table : Table} {inner outer by_ : Column}
    {conditions : List (Predicate Column)} {having : Predicate Column} :
    (rowExists table inner outer conditions (some by_) (some having)).holds db group s ↔
      ∃ t ∈ subqueryRows db s table inner outer conditions,
        let g := (subqueryRows db s table inner outer conditions).filter
          (·.value by_ == t.value by_)
        having.holds db g (g.headD s) := by
  have hholds : (rowExists table inner outer conditions (some by_) (some having)).holds db group s
      = (groupsBy by_ (subqueryRows db s table inner outer conditions)).any
        fun g => having.holds db g (g.headD s) := by
    rw [holds]
    rfl
  -- every row leads to its own group, so some group is the group of some row
  rw [hholds, groupsBy, List.any_map, List.any_eq_true]
  rfl

end Predicate

end Compendium
