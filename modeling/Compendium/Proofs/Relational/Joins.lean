import Compendium.Proofs.Relational.Columns
import Compendium.Statement.PageQuery

/-!
# Compendium — what joins and groups mean

A select statement read against a database. Each join goes through the rows that the joins before it
made: an inner join puts the matching rows of its table beside a row, a left join does so as well but
keeps a row without a match, with `NULL` in all columns of the table. `WHERE` drops rows, `GROUP BY`
puts those with the same key together, and `HAVING` drops groups.

A left join thus repeats rows and adds columns to them. Predicates that do not read these columns
cannot tell, and neither can a count of different values.

* `FromClause.rows` and `Select.listed` are the rows that a source has and the groups that a
  statement lists, each by its key.
* `Join.Beside` says of a left join that its table has none of certain columns.
* `Select.listed_withJoins` says that such joins change no group.
-/

namespace Compendium

/-- `NULL` in every column. -/
def Record.null : Record := fun _ => none

def Scope.blank : Scope := ⟨fun _ => Record.null⟩

/-- The record with these cells and `NULL` in all other columns. -/
def Record.ofCells (cells : List (String × Scalar)) : Record := fun column => cells.lookup column

/-- The database with these tables and no others, in which nothing is like a pattern. -/
def Database.ofTables (tables : List (String × List Record)) : Database :=
  ⟨fun name => (tables.lookup name).getD [], fun _ _ => false⟩

/-! ## Joins -/

namespace Join

/-- The joined table's record fits the rest of the row. -/
def fits (j : Join) (t : Scope) : Bool :=
  sameValue (t.value j.left) (t.value j.right)
    && j.fixed.all fun c => (t.value ⟨j.table.label, c.column⟩).any (· == .int c.value)

/-- The row with each record of the table that fits. -/
def found (j : Join) (db : Database) (s : Scope) : List Scope :=
  ((db.rows j.table.name).map (s.bind j.table.label)).filter j.fits

def extend (j : Join) (db : Database) (s : Scope) : List Scope :=
  match j.kind with
  | .inner => j.found db s
  | .left =>
    if (j.found db s).isEmpty then [s.bind j.table.label Record.null] else j.found db s

variable {j : Join} {db : Database} {s t : Scope}

/-- A record fits by its key and by the fixed conditions. -/
theorem fits_iff :
    j.fits t ↔ sameValue (t.value j.left) (t.value j.right)
      ∧ ∀ c ∈ j.fixed, t.value ⟨j.table.label, c.column⟩ = some (.int c.value) := by
  have hfixed : ∀ c : FixedCondition,
      (t.value ⟨j.table.label, c.column⟩).any (· == .int c.value)
        ↔ t.value ⟨j.table.label, c.column⟩ = some (.int c.value) := by
    intro c
    rcases t.value ⟨j.table.label, c.column⟩ with _ | v <;> simp
  rw [fits, Bool.and_eq_true, List.all_eq_true]
  simp only [hfixed]

/-- What is found is a record of the table beside the row. -/
theorem mem_found_iff :
    t ∈ j.found db s ↔ ∃ r ∈ db.rows j.table.name, s.bind j.table.label r = t ∧ j.fits t := by
  rw [found, List.mem_filter, List.mem_map]
  constructor
  · rintro ⟨⟨r, hr, rfl⟩, hfits⟩
    exact ⟨r, hr, rfl, hfits⟩
  · rintro ⟨r, hr, rfl, hfits⟩
    exact ⟨⟨r, hr, rfl⟩, hfits⟩

/-- However a row comes to be, the join has only bound its own label. -/
theorem exists_bind_of_mem_extend (h : t ∈ j.extend db s) :
    ∃ r, t = s.bind j.table.label r := by
  have hfound : t ∈ j.found db s → ∃ r, t = s.bind j.table.label r := by
    intro ht
    obtain ⟨r, -, rfl, -⟩ := mem_found_iff.1 ht
    exact ⟨r, rfl⟩
  unfold extend at h
  split at h
  · exact hfound h
  · split at h
    · exact ⟨Record.null, List.mem_singleton.1 h⟩
    · exact hfound h

/-- A left join leaves something of each row. -/
theorem extend_ne_nil (hkind : j.kind = .left) : j.extend db s ≠ [] := by
  unfold extend
  rw [hkind]
  show (if (j.found db s).isEmpty then _ else _) ≠ []
  split
  · exact List.cons_ne_nil _ _
  · rename_i hfound
    intro hnil
    exact hfound (List.isEmpty_iff.2 hnil)

end Join

/-- What the joins make of a row, each of all that those before it made. -/
def joinAll (db : Database) : List Join → Scope → List Scope
  | [], s => [s]
  | j :: js, s => (j.extend db s).flatMap (joinAll db js)

theorem joinAll_append {db : Database} (js js' : List Join) (s : Scope) :
    joinAll db (js ++ js') s = (joinAll db js s).flatMap (joinAll db js') := by
  -- each join of the first part is followed by all of the second
  induction js generalizing s with
  | nil => rw [List.nil_append, joinAll, List.flatMap_cons, List.flatMap_nil, List.append_nil]
  | cons j js ih =>
    rw [List.cons_append, joinAll, joinAll, List.flatMap_assoc]
    congr 1
    funext t
    exact ih t

def FromClause.rows (f : FromClause) (db : Database) : List Scope :=
  ((db.rows f.table.name).map (Scope.blank.bind f.table.label)).flatMap (joinAll db f.joins)

/-! ## Groups -/

namespace Select

/-- The rows that meet the conditions. -/
def rows (q : Select) (db : Database) : List Scope :=
  (q.source.rows db).filter fun s => Predicate.allHold db q.conditions [s] s

/-- The rows with this key; those without one are a group, too. -/
def groupOf (q : Select) (db : Database) (key : Option Scalar) : List Scope :=
  (q.rows db).filter (·.value q.groupBy == key)

/-- The group meets the conditions on groups. Its first row represents it. -/
def keeps (q : Select) (db : Database) (key : Option Scalar) : Bool :=
  Predicate.allHold db q.having (q.groupOf db key) ((q.groupOf db key).headD .blank)

/-- The keys of the groups that the statement lists, whatever the window. -/
def listed (q : Select) (db : Database) : Finset (Option Scalar) :=
  (((q.rows db).map (·.value q.groupBy)).filter (q.keeps db)).toFinset

/-- The number of groups. -/
def total (q : Select) (db : Database) : Nat := (q.listed db).card

/-- A key is listed if some row has it and its group is kept. -/
theorem mem_listed_iff {q : Select} {db : Database} {key : Option Scalar} :
    key ∈ q.listed db ↔ (∃ s ∈ q.rows db, s.value q.groupBy = key) ∧ q.keeps db key := by
  rw [listed, List.mem_toFinset, List.mem_filter, List.mem_map]

theorem mem_groupOf_iff {q : Select} {db : Database} {key : Option Scalar} {s : Scope} :
    s ∈ q.groupOf db key ↔ s ∈ q.rows db ∧ s.value q.groupBy = key := by
  rw [groupOf, List.mem_filter, beq_iff_eq]

/-- The statement with further joins after its own. -/
def withJoins (q : Select) (js : List Join) : Select :=
  { q with source := { q.source with joins := q.source.joins ++ js } }

end Select

/-! ## Joins that no predicate notices -/

/-- A left join of a table that has none of these columns. -/
structure Join.Beside (j : Join) (P : Column → Prop) : Prop where
  left : j.kind = .left
  apart : ∀ c, P c → c.table ≠ j.table.label

/-- Something holds of a row that comes of one of the rows. -/
theorem exists_mem_flatMap {f : Scope → List Scope} {rows : List Scope} {p : Scope → Prop} :
    (∃ t ∈ rows.flatMap f, p t) ↔ ∃ s ∈ rows, ∃ t ∈ f s, p t := by
  constructor
  · rintro ⟨t, ht, hp⟩
    obtain ⟨s, hs, ht⟩ := List.mem_flatMap.1 ht
    exact ⟨s, hs, t, ht, hp⟩
  · rintro ⟨s, hs, t, ht, hp⟩
    exact ⟨t, List.mem_flatMap.2 ⟨s, hs, ht⟩, hp⟩

section

variable {P : Column → Prop} {js : List Join} (hjoins : ∀ j ∈ js, j.Beside P) {db : Database}

include hjoins

/-- Joined tables that have none of the columns leave their values alone. -/
theorem agreesOn_of_mem_joinAll {s t : Scope} (h : t ∈ joinAll db js s) : s.AgreesOn P t := by
  induction js generalizing s with
  | nil =>
    rw [List.mem_singleton.1 h]
    exact fun _ _ => rfl
  | cons j js ih =>
    -- the first join binds a label that none of the columns has
    obtain ⟨hj, hjs⟩ := List.forall_mem_cons.1 hjoins
    obtain ⟨s', hs', ht⟩ := List.mem_flatMap.1 h
    obtain ⟨r, rfl⟩ := Join.exists_bind_of_mem_extend hs'
    intro c hc
    rw [← ih hjs ht c hc, Scope.value_bind_of_ne s r (hj.apart c hc)]

/-- No row is lost. -/
theorem exists_mem_joinAll (s : Scope) : ∃ t, t ∈ joinAll db js s := by
  induction js generalizing s with
  | nil => exact ⟨s, List.mem_singleton_self s⟩
  | cons j js ih =>
    obtain ⟨hj, hjs⟩ := List.forall_mem_cons.1 hjoins
    have hextend : j.extend db s ≠ [] := Join.extend_ne_nil hj.left
    obtain ⟨s', hs'⟩ := List.exists_mem_of_ne_nil _ hextend
    obtain ⟨t, ht⟩ := ih hjs s'
    exact ⟨t, List.mem_flatMap.2 ⟨s', hs', ht⟩⟩

/-- What the joins make of a row shows the row's own values and no others. -/
theorem exists_mem_joinAll_value_iff {c : Column} (hc : P c) {s : Scope} {v : Scalar} :
    (∃ t ∈ joinAll db js s, t.value c = some v) ↔ s.value c = some v := by
  constructor
  · rintro ⟨t, ht, hvalue⟩
    rw [agreesOn_of_mem_joinAll hjoins ht c hc]
    exact hvalue
  · intro hvalue
    obtain ⟨t, ht⟩ : ∃ t, t ∈ joinAll db js s := exists_mem_joinAll hjoins s
    refine ⟨t, ht, ?_⟩
    rw [← agreesOn_of_mem_joinAll hjoins ht c hc]
    exact hvalue

/-- Rows that are kept or dropped with what the joins make of them. -/
theorem filter_flatMap_joinAll {p : Scope → Bool}
    (hp : ∀ s t, s.AgreesOn P t → p s = p t) (rows : List Scope) :
    (rows.flatMap (joinAll db js)).filter p = (rows.filter p).flatMap (joinAll db js) := by
  -- the joins keep or lose all that they make of one row together
  have hall : ∀ s, (joinAll db js s).filter p = if p s then joinAll db js s else [] := by
    intro s
    have hsame : ∀ t ∈ joinAll db js s, p t = p s :=
      fun t ht => (hp s t (agreesOn_of_mem_joinAll hjoins ht)).symm
    split
    · rename_i hs
      exact List.filter_eq_self.2 fun t ht => (hsame t ht).trans hs
    · rename_i hs
      exact List.filter_eq_nil_iff.2 fun t ht htrue => hs ((hsame t ht).symm.trans htrue)
  induction rows with
  | nil => rfl
  | cons s rows ih =>
    rw [List.flatMap_cons, List.filter_append, ih, hall, List.filter_cons]
    split
    · rw [List.flatMap_cons]
    · rw [List.nil_append]

/-- A group has the same different values before and after the joins. -/
theorem groupsAgreeOn_flatMap_joinAll (rows : List Scope) :
    GroupsAgreeOn P rows (rows.flatMap (joinAll db js)) := by
  intro c hc
  ext v
  rw [mem_distinctValues, mem_distinctValues, exists_mem_flatMap]
  simp only [exists_mem_joinAll_value_iff hjoins hc]

/-- The row that represents a group shows the same values after the joins. -/
theorem agreesOn_headD_flatMap_joinAll (rows : List Scope) :
    (rows.headD .blank).AgreesOn P ((rows.flatMap (joinAll db js)).headD .blank) := by
  cases rows with
  | nil => exact fun _ _ => rfl
  | cons s rows =>
    rw [List.flatMap_cons]
    -- the first row is left at least once, so the first of the new rows comes of it
    obtain ⟨t, ht⟩ : ∃ t, t ∈ joinAll db js s := exists_mem_joinAll hjoins s
    rcases hall : joinAll db js s with _ | ⟨first, rest⟩
    · rw [hall] at ht
      exact absurd ht List.not_mem_nil
    · have hfirst : first ∈ joinAll db js s := by
        rw [hall]
        exact List.mem_cons_self
      exact agreesOn_of_mem_joinAll hjoins hfirst

end

namespace Select

variable {P : Column → Prop} {q : Select} {js : List Join} {db : Database}
  (hconditions : Predicate.AllReadOnly q.conditions P)
  (hhaving : Predicate.AllReadOnly q.having P) (hgroup : P q.groupBy)
  (hjoins : ∀ j ∈ js, j.Beside P)

include hconditions hjoins

/-- The joins can as well be made after the conditions. -/
theorem rows_withJoins : (q.withJoins js).rows db = (q.rows db).flatMap (joinAll db js) := by
  have hsource : (q.withJoins js).source.rows db = (q.source.rows db).flatMap (joinAll db js) := by
    rw [FromClause.rows, FromClause.rows, List.flatMap_assoc]
    congr 1
    funext s
    exact joinAll_append q.source.joins js s
  rw [rows, hsource]
  refine filter_flatMap_joinAll hjoins (fun s t hst => ?_) _
  exact Predicate.allHold_congr q.conditions hconditions hst.singleton hst

include hgroup

/-- A group with the joins is the group without them, each row extended. -/
theorem groupOf_withJoins (key : Option Scalar) :
    (q.withJoins js).groupOf db key = (q.groupOf db key).flatMap (joinAll db js) := by
  rw [groupOf, rows_withJoins hconditions hjoins]
  refine filter_flatMap_joinAll hjoins (fun s t hst => ?_) _
  show (s.value q.groupBy == key) = (t.value q.groupBy == key)
  rw [hst q.groupBy hgroup]

include hhaving

theorem keeps_withJoins (key : Option Scalar) :
    (q.withJoins js).keeps db key = q.keeps db key := by
  rw [keeps, keeps, groupOf_withJoins hconditions hgroup hjoins]
  exact (Predicate.allHold_congr q.having hhaving
    (groupsAgreeOn_flatMap_joinAll hjoins (q.groupOf db key))
    (agreesOn_headD_flatMap_joinAll hjoins (q.groupOf db key))).symm

/-- The same groups are listed with the joins and without them. -/
theorem listed_withJoins : (q.withJoins js).listed db = q.listed db := by
  ext key
  rw [mem_listed_iff, mem_listed_iff, keeps_withJoins hconditions hhaving hgroup hjoins]
  refine and_congr_left fun _ => ?_
  rw [rows_withJoins hconditions hjoins, exists_mem_flatMap]
  refine exists_congr fun s => and_congr_right fun _ => ?_
  -- each row is left at least once, with its key
  constructor
  · rintro ⟨t, ht, rfl⟩
    exact agreesOn_of_mem_joinAll hjoins ht _ hgroup
  · rintro rfl
    obtain ⟨t, ht⟩ : ∃ t, t ∈ joinAll db js s := exists_mem_joinAll hjoins s
    exact ⟨t, ht, (agreesOn_of_mem_joinAll hjoins ht _ hgroup).symm⟩

end Select

end Compendium
