import Mathlib.Data.List.Forall2
import Compendium.Proofs.Statement.Marks
import Compendium.Statement.PageQuery

/-!
# Compendium — what a page query reads as

A database is not given the tree of a statement but its text, so what holds of the tree says
something about the answer only if the text says the same as the tree. Here the text is described
once more, for each form that a part of the tree can have, without the functions that write it.

* `SortExpr.Reads`, `SelectItem.Reads`, `Join.Reads` and `SortTerm.Reads` are the readings of the
  parts; each form of a part has one.
* `Select.Reads` puts them together, from the selection to the marks for the limit and the offset.
* `PageQuery.reads_sql` says that the text of every page query is the reading of its tree.
-/

namespace Compendium

/-! ## Parts -/

/-- A column, or its least or greatest value in the group. -/
inductive SortExpr.Reads : SortExpr → String → Prop where
  | column (c : Column) : Reads ⟨none, c⟩ s!"{c.table}.{c.name}"
  | least (c : Column) : Reads ⟨some .min, c⟩ s!"MIN({c.table}.{c.name})"
  | greatest (c : Column) : Reads ⟨some .max, c⟩ s!"MAX({c.table}.{c.name})"

/-- Two columns as one text, with a colon between. -/
inductive Backend.PairReads : Backend → Column → Column → String → Prop where
  | sqlite (left right : Column) :
    PairReads .sqlite left right s!"{left.table}.{left.name} || ':' || {right.table}.{right.name}"
  | other {backend : Backend} (h : backend ≠ .sqlite) (left right : Column) :
    PairReads backend left right
      s!"CONCAT({left.table}.{left.name}, ':', {right.table}.{right.name})"

/-- What is selected. Only a pair of columns is not the same text on all backends. -/
inductive SelectItem.Reads (backend : Backend) : SelectItem → String → Prop where
  | allOf (label : String) : Reads backend (.allOf label) s!"{label}.*"
  | sorted {expr : SortExpr} {text : String} (h : expr.Reads text) (label : String) :
    Reads backend (.sorted ⟨expr, label⟩) s!"{text} AS {label}"
  | values (c : Column) (label : String) :
    Reads backend (.values c none label) s!"GROUP_CONCAT(DISTINCT {c.table}.{c.name}) AS {label}"
  | pairs {left right : Column} {text : String} (h : backend.PairReads left right text)
      (label : String) :
    Reads backend (.values left (some right) label) s!"GROUP_CONCAT(DISTINCT {text}) AS {label}"
  | count (c : Column) (label : String) :
    Reads backend (.summary .count c label) s!"COUNT(DISTINCT {c.table}.{c.name}) AS {label}"
  | nextIndex (c : Column) (label : String) :
    Reads backend (.summary .nextIndex c label)
      s!"COALESCE(MAX({c.table}.{c.name}) + 1, 0) AS {label}"
  | totalCount : Reads backend .totalCount "COUNT(*) OVER() AS total_count"

/-- The table that is joined, the columns that must be equal, and the fixed conditions. -/
def Join.condition (j : Join) : String :=
  s!"{j.table.name} {j.table.label} ON {j.left.table}.{j.left.name} = {j.right.table}.{j.right.name}"
    ++ String.join (j.fixed.map fun c => s!" AND {j.table.label}.{c.column} = {c.value.toInt}")

inductive Join.Reads : Join → String → Prop where
  | inner {j : Join} (h : j.kind = .inner) : Reads j ("JOIN " ++ j.condition)
  | left {j : Join} (h : j.kind = .left) : Reads j ("LEFT JOIN " ++ j.condition)

inductive SortTerm.Reads : SortTerm → String → Prop where
  | ascending {expr : SortExpr} {text : String} (h : expr.Reads text) :
    Reads ⟨expr, .ascending⟩ s!"{text} ASC"
  | descending {expr : SortExpr} {text : String} (h : expr.Reads text) :
    Reads ⟨expr, .descending⟩ s!"{text} DESC"

/-! What the parts are written as is a reading of them. A reading is put together from the left, so
both texts are brought to the same brackets. -/

/-- In an interpolated text a text is written as it is. -/
theorem toString_text (s : String) : toString s = s := rfl

/-- Brackets to the right, as for the texts that it is put into. -/
theorem Column.text_eq (c : Column) : c.text = c.table ++ ("." ++ c.name) := by
  rw [text, String.append_assoc]

/-- A column as it is, or an extremum of it. -/
theorem SortExpr.reads_text (e : SortExpr) : e.Reads e.text := by
  obtain ⟨extremum, c⟩ := e
  rcases extremum with _ | _ | _
  · exact .column c
  · simpa only [text, toString_text, Column.text_eq, String.append_assoc] using Reads.least c
  · simpa only [text, toString_text, Column.text_eq, String.append_assoc] using Reads.greatest c

/-- Only SQLite does without a function. -/
theorem Backend.pairReads_pair (backend : Backend) (c c' : Column) :
    backend.PairReads c c' (backend.pair c c') := by
  have hconcat (h : backend ≠ .sqlite) : backend.PairReads c c'
      ("CONCAT(" ++ c.text ++ ", ':', " ++ c'.text ++ ")") := by
    simpa only [toString_text, Column.text_eq, String.append_assoc] using PairReads.other h c c'
  -- MySQL and Postgres go by the other form
  cases backend with
  | sqlite =>
    simpa only [pair, toString_text, Column.text_eq, String.append_assoc]
      using PairReads.sqlite c c'
  | mysql => exact hconcat (by decide)
  | postgres => exact hconcat (by decide)

/-- Every item has the form of its kind. The cases name what is written, for `text` is slow to
open. -/
theorem SelectItem.reads_text (backend : Backend) (item : SelectItem) :
    item.Reads backend (item.text backend) := by
  cases item with
  | allOf label => exact .allOf label
  | sorted e =>
    have hreads := @Reads.sorted backend _ _ e.expr.reads_text e.label
    rwa [toString_text, toString_text, toString_text] at hreads
  | values c paired label =>
    cases paired with
    | none =>
      show Reads backend _ ("GROUP_CONCAT(DISTINCT " ++ c.text ++ ") AS " ++ label)
      simpa only [toString_text, Column.text_eq, String.append_assoc] using Reads.values c label
    | some c' =>
      have hreads := Reads.pairs (backend.pairReads_pair c c') label
      rwa [toString_text, toString_text, toString_text] at hreads
  | summary kind c label =>
    cases kind with
    | count =>
      show Reads backend _ ("COUNT(DISTINCT " ++ c.text ++ ") AS " ++ label)
      simpa only [toString_text, Column.text_eq, String.append_assoc] using Reads.count c label
    | nextIndex =>
      show Reads backend _ ("COALESCE(MAX(" ++ c.text ++ ") + 1, 0) AS " ++ label)
      simpa only [toString_text, Column.text_eq, String.append_assoc] using Reads.nextIndex c label
  | totalCount => exact .totalCount

theorem fixedText_eq (label : String) (c : FixedCondition) :
    fixedText label c = s!" AND {label}.{c.column} = {c.value.toInt}" := by
  simp only [fixedText, toString_text, Column.text_eq, String.append_assoc]

/-- Both kinds of joins have the same condition after the keyword. -/
theorem Join.reads_text (j : Join) : j.Reads j.text := by
  have hfixed : fixedText j.table.label
      = fun c => s!" AND {j.table.label}.{c.column} = {c.value.toInt}" :=
    funext (fixedText_eq j.table.label)
  have htext : j.text = j.keyword ++ j.condition := by
    simp only [text, condition, hfixed, toString_text, Column.text_eq, String.append_assoc]
  rw [htext, keyword]
  cases hkind : j.kind with
  | inner => exact .inner hkind
  | left => exact .left hkind

/-- The direction comes last. -/
theorem SortTerm.reads_text (t : SortTerm) : t.Reads t.text := by
  obtain ⟨expr, direction⟩ := t
  rw [text, String.append_assoc]
  cases direction with
  | ascending => exact .ascending expr.reads_text
  | descending => exact .descending expr.reads_text

/-! ## Statements -/

/-- The clauses in their order, those without predicates left out. A value is a question mark. -/
def Select.Reads (s : Select) (backend : Backend) (sql : String) : Prop :=
  ∃ items joins order : List String,
    List.Forall₂ (SelectItem.Reads backend) s.items items
    ∧ List.Forall₂ Join.Reads s.source.joins joins
    ∧ List.Forall₂ SortTerm.Reads s.orderBy order
    ∧ sql = "SELECT " ++ ", ".intercalate items ++ " "
        ++ s!"FROM {s.source.table.name} {s.source.table.label}"
        ++ String.join (joins.map (" " ++ ·))
        ++ writtenClause (fun _ => "?") " WHERE " s.conditions
        ++ s!" GROUP BY {s.groupBy.table}.{s.groupBy.name}"
        ++ writtenClause (fun _ => "?") " HAVING " s.having
        ++ " ORDER BY " ++ ", ".intercalate order ++ " LIMIT ? OFFSET ?"

/-- The text of a fragment is the fragment with a question mark written for every value. -/
theorem Fragment.sql_eq_written (f : Fragment) : f.sql = f.written fun _ => "?" := by
  rw [sql, written]
  congr 1

/-- The text of a statement is read part by part, and each part by its own form. -/
theorem Select.reads_sql (s : Select) (backend : Backend) :
    s.Reads backend (s.fragment backend).sql := by
  refine ⟨s.items.map (·.text backend), s.source.joins.map Join.text, s.orderBy.map SortTerm.text,
    ?_, ?_, ?_, ?_⟩
  · rw [List.forall₂_map_right_iff, List.forall₂_same]
    exact fun item _ => item.reads_text backend
  · rw [List.forall₂_map_right_iff, List.forall₂_same]
    exact fun j _ => j.reads_text
  · rw [List.forall₂_map_right_iff, List.forall₂_same]
    exact fun t _ => t.reads_text
  · -- between the head and the order there are only clauses, written with marks for the values
    rw [Fragment.sql_eq_written, written_fragment, written, headText, FromClause.text, orderText,
      List.map_map]
    simp [toString_text, Column.text_eq, String.append_assoc, Function.comp_def]

/-- The text that is sent is the reading of the tree. -/
theorem PageQuery.reads_sql (q : PageQuery) : q.select.Reads q.backend q.sql :=
  q.select.reads_sql q.backend

end Compendium
