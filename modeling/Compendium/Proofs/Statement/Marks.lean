import Compendium.Statement.Select

/-!
# Compendium — question marks and values

A statement goes to the database as a text with question marks and a list of values. It means what
its tree means only if the i-th mark stands for the i-th value. `Aligned` says so: the marks are as
many as the values, and with every mark replaced by the value of its number, all at once, the text
is the one that the tree reads as with each value written in its own place.

* `Predicate.written` and `Select.written` read a tree with its values in place. They are written
  down without holes and fragments.
* `Fragment.fillMarks_sql` is the law of fragments behind all of this: literal texts without marks
  keep the marks and the values in step.
* `Predicate.aligned_conjunction` and `Select.aligned` carry it over to trees.
-/

namespace Compendium

/-- The text has no question mark in it. -/
def NoMark (s : String) : Prop := '?' ∉ s.toList

instance (s : String) : Decidable (NoMark s) := by unfold NoMark; infer_instance

/-! ## Texts without marks -/

@[simp] theorem noMark_append (s t : String) : NoMark (s ++ t) ↔ NoMark s ∧ NoMark t := by
  simp [NoMark, not_or]

/-- Texts without marks have none when they are joined. -/
theorem noMark_join {l : List String} (h : ∀ s ∈ l, NoMark s) : NoMark (String.join l) := by
  unfold NoMark
  rw [String.toList_join, List.mem_flatMap]
  rintro ⟨s, hs, hmem⟩
  exact h s hs hmem

theorem noMark_intercalate {separator : String} {l : List String} (hsep : NoMark separator)
    (h : ∀ s ∈ l, NoMark s) : NoMark (separator.intercalate l) := by
  -- the separator stands after every text but the last
  induction l with
  | nil =>
    rw [String.intercalate_nil]
    decide
  | cons s l ih =>
    have hs : NoMark s := h s (by simp)
    have hl : ∀ t ∈ l, NoMark t := fun t ht => h t (List.mem_cons_of_mem _ ht)
    rcases l with _ | ⟨t, l⟩
    · simpa using hs
    · rw [String.intercalate_cons_cons, noMark_append, noMark_append]
      exact ⟨⟨hs, hsep⟩, ih hl⟩

theorem isDigit_of_mem_natRepr {n : Nat} {c : Char} (h : c ∈ n.repr.toList) : c.isDigit = true := by
  rw [Nat.toList_repr] at h
  exact Nat.isDigit_of_mem_toDigits (by omega) (by omega) h

/-- Integers are written with a sign and digits. -/
theorem sign_or_isDigit_of_mem_intRepr {n : Int} {c : Char} (h : c ∈ n.repr.toList) :
    c = '-' ∨ c.isDigit = true := by
  rcases n with n | n
  · exact .inr (isDigit_of_mem_natRepr h)
  · have hmem : c ∈ "-".toList ++ (n + 1).repr.toList := by
      rw [← String.toList_append]
      exact h
    rcases List.mem_append.1 hmem with hsign | hdigits
    · exact .inl (List.mem_singleton.1 hsign)
    · exact .inr (isDigit_of_mem_natRepr hdigits)

theorem noMark_intRepr (n : Int) : NoMark n.repr := by
  intro hmem
  rcases sign_or_isDigit_of_mem_intRepr hmem with hsign | hdigit
  · exact absurd hsign (by decide)
  · exact absurd hdigit (by decide)

/-! ## Filling marks -/

/-- Every mark replaced by the text of the value that has its number. A mark without a value stays,
and what a value's text holds is not looked at again. -/
def fillMarks (write : Scalar → String) : List Char → List Scalar → List Char
  | cs, [] => cs
  | [], _ :: _ => []
  | c :: cs, v :: vs =>
    if c = '?' then (write v).toList ++ fillMarks write cs vs
    else c :: fillMarks write cs (v :: vs)

/-- The marks of `sql` stand for `values` in order, and `written` is what it says of them. -/
structure Aligned (sql : String) (values : List Scalar) (written : (Scalar → String) → String) :
    Prop where
  count : sql.toList.count '?' = values.length
  fill : ∀ write, fillMarks write sql.toList values = (written write).toList

/-- Literal text is passed over, and no value is used up on the way. -/
theorem fillMarks_append (write : Scalar → String) {cs : List Char} (h : '?' ∉ cs)
    (rest : List Char) (values : List Scalar) :
    fillMarks write (cs ++ rest) values = cs ++ fillMarks write rest values := by
  rcases values with _ | ⟨v, vs⟩
  · rw [fillMarks, fillMarks]
  · induction cs with
    | nil => rfl
    | cons c cs ih =>
      simp only [List.mem_cons, not_or] at h
      rw [List.cons_append, fillMarks, if_neg (Ne.symm h.1), ih h.2, List.cons_append]

namespace Fragment

/-- The literal texts of the fragment have no marks. -/
def MarkFree (f : Fragment) : Prop := ∀ s, Piece.text s ∈ f → NoMark s

/-- The fragment with each value written in its hole. -/
def written (write : Scalar → String) (f : Fragment) : String :=
  String.join (f.map fun
    | .text sql => sql
    | .hole value => write value)

@[simp] theorem markFree_nil : MarkFree [] := fun _ h => absurd h (by simp)

@[simp] theorem markFree_text (s : String) (f : Fragment) :
    MarkFree (.text s :: f) ↔ NoMark s ∧ MarkFree f := by
  simp [MarkFree]

@[simp] theorem markFree_hole (v : Scalar) (f : Fragment) :
    MarkFree (.hole v :: f) ↔ MarkFree f := by
  simp [MarkFree]

@[simp] theorem markFree_append (f g : Fragment) :
    MarkFree (f ++ g) ↔ MarkFree f ∧ MarkFree g := by
  simp only [MarkFree, List.mem_append, or_imp, forall_and]

theorem markFree_joined {separator : String} (hsep : NoMark separator) {fs : List Fragment}
    (h : ∀ f ∈ fs, MarkFree f) : MarkFree (joined separator fs) := by
  induction fs with
  | nil => exact markFree_nil
  | cons f fs ih =>
    have hf : MarkFree f := h f (by simp)
    have hfs : MarkFree (joined separator fs) := ih fun g hg => h g (List.mem_cons_of_mem _ hg)
    rcases fs with _ | ⟨g, gs⟩
    · exact hf
    · show MarkFree (f ++ .text separator :: joined separator (g :: gs))
      rw [markFree_append, markFree_text]
      exact ⟨hf, hsep, hfs⟩

@[simp] theorem sql_text (s : String) (f : Fragment) : sql (.text s :: f) = s ++ sql f := by
  simp [sql, Piece.sql]

/-- A hole is sent as a mark. -/
@[simp] theorem sql_hole (v : Scalar) (f : Fragment) : sql (.hole v :: f) = "?" ++ sql f := by
  simp [sql, Piece.sql]

@[simp] theorem written_nil (write : Scalar → String) : written write [] = "" := rfl

@[simp] theorem written_text (write : Scalar → String) (s : String) (f : Fragment) :
    written write (.text s :: f) = s ++ written write f := by
  simp [written]

@[simp] theorem written_hole (write : Scalar → String) (v : Scalar) (f : Fragment) :
    written write (.hole v :: f) = write v ++ written write f := by
  simp [written]

@[simp] theorem written_append (write : Scalar → String) (f g : Fragment) :
    written write (f ++ g) = written write f ++ written write g := by
  simp [written]

/-- What is between the fragments is between their texts. -/
theorem written_joined (write : Scalar → String) (separator : String) (fs : List Fragment) :
    written write (joined separator fs) = separator.intercalate (fs.map (written write)) := by
  induction fs with
  | nil => rfl
  | cons f fs ih =>
    rcases fs with _ | ⟨g, gs⟩
    · simp [joined]
    · show written write (f ++ .text separator :: joined separator (g :: gs)) = _
      rw [written_append, written_text, ih, List.map_cons, List.map_cons, List.map_cons,
        String.intercalate_cons_cons, String.append_assoc]

/-- Each hole leaves one mark, and nothing else does. -/
theorem count_sql {f : Fragment} (h : f.MarkFree) :
    f.sql.toList.count '?' = f.values.length := by
  induction f with
  | nil => rfl
  | cons p f ih =>
    cases p with
    | text s =>
      rw [markFree_text] at h
      rw [sql_text, String.toList_append, List.count_append, List.count_eq_zero.2 h.1, ih h.2,
        values_text, Nat.zero_add]
    | hole v =>
      rw [markFree_hole] at h
      rw [sql_hole, String.toList_append, List.count_append, ih h, values_hole, List.length_cons,
        show "?".toList.count '?' = 1 from rfl, Nat.add_comm]

/-- Walking over the text meets a mark exactly where the next value belongs. -/
theorem fillMarks_sql (write : Scalar → String) {f : Fragment} (h : f.MarkFree) :
    fillMarks write f.sql.toList f.values = (f.written write).toList := by
  induction f with
  | nil => rfl
  | cons p f ih =>
    cases p with
    | text s =>
      rw [markFree_text] at h
      rw [sql_text, String.toList_append, fillMarks_append write h.1, values_text, ih h.2,
        written_text, String.toList_append]
    | hole v =>
      rw [markFree_hole] at h
      -- the mark in front takes the first of the values
      rw [sql_hole, String.toList_append, values_hole, written_hole, String.toList_append, ← ih h]
      rfl

/-- Both halves for one fragment: as many marks as values, and each in its place. -/
theorem aligned {f : Fragment} (h : f.MarkFree) : Aligned f.sql f.values fun w => f.written w :=
  ⟨count_sql h, fun write => fillMarks_sql write h⟩

end Fragment

/-! ## Predicates -/

namespace Predicate

variable {κ : Type} [ColumnText κ]

open ColumnText (text)

mutual

/-- The texts of all columns and tables in the predicate. -/
def texts : Predicate κ → List String
  | eq column _ => [text column]
  | like column _ => [text column]
  | isIn column _ => [text column]
  | fixed column _ => [text column]
  | countDistinct column _ => [text column]
  | anyOf terms => textsOfAll terms
  | rowExists table inner outer conditions groupBy having =>
    table.name :: table.label :: text inner :: text outer :: textsOfAll conditions
      ++ (groupBy.map text).toList ++ havingTexts having

def textsOfAll : List (Predicate κ) → List String
  | [] => []
  | p :: ps => p.texts ++ textsOfAll ps

def havingTexts : Option (Predicate κ) → List String
  | none => []
  | some p => p.texts

end

def writtenGroupBy : Option κ → String
  | none => ""
  | some column => " GROUP BY " ++ text column

mutual

/-- The predicate as a text with every value in its own place. -/
def written (write : Scalar → String) : Predicate κ → String
  | eq column value => text column ++ " = " ++ write value
  | like column pattern => text column ++ " LIKE " ++ write pattern
  | isIn column values => text column ++ " IN (" ++ ", ".intercalate (values.map write) ++ ")"
  | fixed column value => text column ++ " = " ++ toString value.toInt
  | countDistinct column count =>
    "COUNT(DISTINCT " ++ text column ++ ") = " ++ write (.int count)
  | anyOf terms => "(" ++ " OR ".intercalate (writtenAll write terms) ++ ")"
  | rowExists table inner outer conditions groupBy having =>
    "EXISTS (SELECT 1 FROM " ++ table.name ++ " " ++ table.label ++ " WHERE "
      ++ " AND ".intercalate ((text inner ++ " = " ++ text outer) :: writtenAll write conditions)
      ++ writtenGroupBy groupBy ++ writtenHaving write having ++ ")"

def writtenAll (write : Scalar → String) : List (Predicate κ) → List String
  | [] => []
  | p :: ps => p.written write :: writtenAll write ps

def writtenHaving (write : Scalar → String) : Option (Predicate κ) → String
  | none => ""
  | some p => " HAVING " ++ p.written write

end

/-! One equation for each kind of predicate. They hold by definition; unfolding `written` itself
would make every use open all kinds at once. -/

section

variable (write : Scalar → String)

theorem written_eq (column : κ) (value : Scalar) :
    written write (.eq column value) = text column ++ " = " ++ write value := rfl

theorem written_like (column : κ) (pattern : Scalar) :
    written write (.like column pattern) = text column ++ " LIKE " ++ write pattern := rfl

theorem written_isIn (column : κ) (values : List Scalar) :
    written write (.isIn column values)
      = text column ++ " IN (" ++ ", ".intercalate (values.map write) ++ ")" := rfl

theorem written_fixed (column : κ) (value : Int64) :
    written write (.fixed column value) = text column ++ " = " ++ toString value.toInt := rfl

theorem written_countDistinct (column : κ) (count : Int64) :
    written write (.countDistinct column count)
      = "COUNT(DISTINCT " ++ text column ++ ") = " ++ write (.int count) := rfl

theorem written_anyOf (terms : List (Predicate κ)) :
    written write (.anyOf terms) = "(" ++ " OR ".intercalate (writtenAll write terms) ++ ")" := rfl

theorem written_rowExists (table : Table) (inner outer : κ) (conditions : List (Predicate κ))
    (groupBy : Option κ) (having : Option (Predicate κ)) :
    written write (.rowExists table inner outer conditions groupBy having)
      = "EXISTS (SELECT 1 FROM " ++ table.name ++ " " ++ table.label ++ " WHERE "
        ++ " AND ".intercalate ((text inner ++ " = " ++ text outer) :: writtenAll write conditions)
        ++ writtenGroupBy groupBy ++ writtenHaving write having ++ ")" := rfl

theorem writtenAll_cons (p : Predicate κ) (ps : List (Predicate κ)) :
    writtenAll write (p :: ps) = p.written write :: writtenAll write ps := rfl

theorem writtenHaving_some (p : Predicate κ) :
    writtenHaving write (some p) = " HAVING " ++ p.written write := rfl

end

theorem writtenAll_eq_map (write : Scalar → String) (ps : List (Predicate κ)) :
    writtenAll write ps = ps.map (written write) := by
  induction ps with
  | nil => rfl
  | cons p ps ih => rw [writtenAll_cons, ih, List.map_cons]

theorem textsOfAll_eq_flatMap (ps : List (Predicate κ)) :
    textsOfAll ps = ps.flatMap texts := by
  induction ps with
  | nil => rfl
  | cons p ps ih => rw [textsOfAll, ih, List.flatMap_cons]

/-- A predicate all of whose texts are free of marks. -/
def MarkFree (p : Predicate κ) : Prop := ∀ s ∈ p.texts, NoMark s

/-! ### Literal texts of a predicate -/

theorem markFree_holes (values : List Scalar) : (holes values).MarkFree := by
  refine Fragment.markFree_joined (by decide) ?_
  intro f hf
  obtain ⟨v, -, rfl⟩ := List.mem_map.1 hf
  simp

theorem markFree_andEach {fs : List Fragment} (h : ∀ f ∈ fs, f.MarkFree) :
    (andEach fs).MarkFree := by
  intro s hs
  obtain ⟨f, hf, hs⟩ := List.mem_flatMap.1 hs
  rcases List.mem_cons.1 hs with heq | hs
  · cases heq
    decide
  · exact h f hf s hs

mutual

theorem markFree_fragment : (p : Predicate κ) → p.MarkFree → p.fragment.MarkFree
  | eq column _, h => by
    have hcolumn : NoMark (text column) := h _ (by simp [texts])
    simp +decide [fragment, hcolumn]
  | like column _, h => by
    have hcolumn : NoMark (text column) := h _ (by simp [texts])
    simp +decide [fragment, hcolumn]
  | isIn column values, h => by
    have hcolumn : NoMark (text column) := h _ (by simp [texts])
    simp +decide [fragment, hcolumn, markFree_holes]
  | fixed column value, h => by
    have hcolumn : NoMark (text column) := h _ (by simp [texts])
    simp +decide [fragment, hcolumn, noMark_intRepr]
  | countDistinct column _, h => by
    have hcolumn : NoMark (text column) := h _ (by simp [texts])
    simp +decide [fragment, hcolumn]
  | anyOf terms, h => by
    have hterms : (Fragment.joined " OR " (fragments terms)).MarkFree :=
      Fragment.markFree_joined (by decide) (markFree_fragments terms h)
    simp +decide [fragment, hterms]
  | rowExists table inner outer conditions groupBy having, h => by
    have hname : NoMark table.name := h _ (by simp [texts])
    have hlabel : NoMark table.label := h _ (by simp [texts])
    have hinner : NoMark (text inner) := h _ (by simp [texts])
    have houter : NoMark (text outer) := h _ (by simp [texts])
    -- the conditions and the group condition are smaller trees
    have hconditions : (andEach (fragments conditions)).MarkFree :=
      markFree_andEach (markFree_fragments conditions fun s hs => h s (by simp [texts, hs]))
    have hgroup : (groupByFragment groupBy).MarkFree := by
      rcases groupBy with _ | column
      · exact Fragment.markFree_nil
      · have hcolumn : NoMark (text column) := h _ (by simp [texts])
        simp +decide [groupByFragment, hcolumn]
    have hhaving : (havingFragment having).MarkFree :=
      markFree_havingFragment having fun s hs => h s (by simp [texts, hs])
    simp +decide [fragment, hname, hlabel, hinner, houter, hconditions, hgroup, hhaving]

/-- A list of predicates is free of marks, member by member. -/
theorem markFree_fragments : (ps : List (Predicate κ)) → (∀ s ∈ textsOfAll ps, NoMark s) →
    ∀ f ∈ fragments ps, f.MarkFree
  | [], _ => fun f hf => absurd hf (by simp [fragments])
  | p :: ps, h => by
    have hp : p.fragment.MarkFree := markFree_fragment p fun s hs => h s (by simp [textsOfAll, hs])
    have hps := markFree_fragments ps fun s hs => h s (by simp [textsOfAll, hs])
    rw [fragments]
    exact List.forall_mem_cons.2 ⟨hp, hps⟩

theorem markFree_havingFragment : (having : Option (Predicate κ)) →
    (∀ s ∈ havingTexts having, NoMark s) → (havingFragment having).MarkFree
  | none, _ => Fragment.markFree_nil
  | some p, h => by
    rw [havingFragment, Fragment.markFree_text]
    exact ⟨by decide, markFree_fragment p h⟩

end

/-! ### Values in their places -/

/-- A first text and the others, each with the separator before it. -/
theorem intercalate_cons_eq_append_join (separator s : String) (l : List String) :
    separator.intercalate (s :: l) = s ++ String.join (l.map (separator ++ ·)) := by
  induction l generalizing s with
  | nil => simp
  | cons t l ih =>
    rw [String.intercalate_cons_cons, ih t, List.map_cons, String.join_cons, String.append_assoc,
      String.append_assoc]

theorem written_holes (write : Scalar → String) (values : List Scalar) :
    (holes values).written write = ", ".intercalate (values.map write) := by
  -- a fragment of one hole is written as its value
  have hmap : (values.map fun v => [Piece.hole v]).map (Fragment.written write)
      = values.map write := by
    rw [List.map_map]
    refine List.map_congr_left fun v _ => ?_
    show Fragment.written write [.hole v] = write v
    rw [Fragment.written_hole, Fragment.written_nil, String.append_empty]
  rw [holes, Fragment.written_joined, hmap]

/-- Every condition is written with its keyword in front. -/
theorem written_andEach (write : Scalar → String) (fs : List Fragment) :
    (andEach fs).written write = String.join ((fs.map (Fragment.written write)).map (" AND " ++ ·)) := by
  induction fs with
  | nil => rfl
  | cons f fs ih =>
    show Fragment.written write ((.text " AND " :: f) ++ andEach fs) = _
    rw [Fragment.written_append, Fragment.written_text, ih, List.map_cons, List.map_cons,
      String.join_cons]

theorem written_groupByFragment (write : Scalar → String) (groupBy : Option κ) :
    (groupByFragment groupBy).written write = writtenGroupBy groupBy := by
  cases groupBy with
  | none => rfl
  | some column => simp [groupByFragment, writtenGroupBy]

mutual

/-- Filling the holes of the fragment and reading the tree come to the same. -/
theorem written_fragment (write : Scalar → String) : (p : Predicate κ) →
    p.fragment.written write = p.written write
  | eq column value => by
    rw [written_eq, fragment, Fragment.written_text, Fragment.written_hole, Fragment.written_nil,
      String.append_empty]
  | like column pattern => by
    rw [written_like, fragment, Fragment.written_text, Fragment.written_hole, Fragment.written_nil,
      String.append_empty]
  | isIn column values => by
    rw [written_isIn, fragment, List.cons_append, Fragment.written_text, Fragment.written_append,
      written_holes, Fragment.written_text, Fragment.written_nil, String.append_empty,
      ← String.append_assoc]
  | fixed column value => by
    rw [written_fixed, fragment, Fragment.written_text, Fragment.written_nil, String.append_empty]
  | countDistinct column count => by
    rw [written_countDistinct, fragment, Fragment.written_text, Fragment.written_hole,
      Fragment.written_nil, String.append_empty]
  | anyOf terms => by
    rw [written_anyOf, fragment, List.cons_append, Fragment.written_text, Fragment.written_append,
      Fragment.written_joined, written_fragments write terms, Fragment.written_text,
      Fragment.written_nil, String.append_empty, String.append_assoc]
  | rowExists table inner outer conditions groupBy having => by
    -- the tree puts `AND` between the conditions, the fragment one before each of them
    simp only [written_rowExists, fragment, List.cons_append, Fragment.written_text,
      Fragment.written_append, written_andEach, written_fragments write conditions,
      written_groupByFragment, written_havingFragment write having,
      intercalate_cons_eq_append_join, Fragment.written_nil, String.append_assoc,
      String.append_empty]

theorem written_fragments (write : Scalar → String) : (ps : List (Predicate κ)) →
    (fragments ps).map (Fragment.written write) = writtenAll write ps
  | [] => rfl
  | p :: ps => by
    rw [fragments, writtenAll_cons, List.map_cons, written_fragment write p,
      written_fragments write ps]

theorem written_havingFragment (write : Scalar → String) : (having : Option (Predicate κ)) →
    (havingFragment having).written write = writtenHaving write having
  | none => rfl
  | some p => by
    rw [havingFragment, Fragment.written_text, written_fragment write p, writtenHaving_some]

end

/-- A conjunction adds nothing but keywords. -/
theorem markFree_conjunction {ps : List (Predicate κ)} (h : ∀ p ∈ ps, p.MarkFree) :
    (conjunction ps).MarkFree := by
  refine Fragment.markFree_joined (by decide) ?_
  intro f hf
  obtain ⟨p, hp, rfl⟩ := List.mem_map.1 hf
  exact markFree_fragment p (h p hp)

/-- A conjunction is written with keywords between its terms. -/
theorem written_conjunction (write : Scalar → String) (ps : List (Predicate κ)) :
    (conjunction ps).written write = " AND ".intercalate (ps.map (written write)) := by
  rw [conjunction, Fragment.written_joined, ← fragments_eq_map, written_fragments,
    writtenAll_eq_map]

/-- A conjunction of predicates without marks is aligned, however deep they are nested. -/
theorem aligned_conjunction {ps : List (Predicate κ)} (h : ∀ p ∈ ps, p.MarkFree) :
    Aligned (conjunction ps).sql (conjunction ps).values
      fun write => " AND ".intercalate (ps.map (written write)) := by
  have haligned := Fragment.aligned (markFree_conjunction h)
  refine ⟨haligned.count, fun write => ?_⟩
  rw [haligned.fill, written_conjunction]

/-- The holes of all trees together are as many as the values. -/
theorem length_values_conjunction (ps : List (Predicate κ)) :
    (conjunction ps).values.length = holeCounts ps := by
  have hflat : ps.flatMap (fun p => p.fragment.values) = (fragments ps).flatMap Fragment.values := by
    rw [fragments_eq_map, List.flatMap_map]
  rw [values_conjunction, hflat, length_values_fragments]

end Predicate

/-! ## Select statements -/

namespace Select

/-- A keyword and predicates that must all hold, with their values in place. -/
def writtenClause (write : Scalar → String) (keyword : String) (ps : List (Predicate Column)) :
    String :=
  if ps.isEmpty then "" else keyword ++ " AND ".intercalate (ps.map (Predicate.written write))

/-- The statement as a text with every value in its own place. -/
def written (write : Scalar → String) (s : Select) (backend : Backend) : String :=
  s.headText backend ++ writtenClause write " WHERE " s.conditions
    ++ " GROUP BY " ++ s.groupBy.text ++ writtenClause write " HAVING " s.having
    ++ " ORDER BY " ++ orderText s.orderBy
    ++ " LIMIT " ++ write (.int s.limit) ++ " OFFSET " ++ write (.int s.offset)

/-- A statement all of whose own texts are free of marks. -/
structure MarkFree (s : Select) (backend : Backend) : Prop where
  head : NoMark (s.headText backend)
  conditions : ∀ p ∈ s.conditions, p.MarkFree
  groupBy : NoMark s.groupBy.text
  having : ∀ p ∈ s.having, p.MarkFree
  order : NoMark (orderText s.orderBy)

theorem markFree_clause {keyword : String} (hkeyword : NoMark keyword) {f : Fragment}
    (h : f.MarkFree) : (clause keyword f).MarkFree := by
  cases f with
  | nil => exact h
  | cons p ps =>
    show Fragment.MarkFree (.text keyword :: p :: ps)
    rw [Fragment.markFree_text]
    exact ⟨hkeyword, h⟩

/-- A predicate never reads as nothing, so a clause is left out only if it has no predicates. -/
theorem written_clause (write : Scalar → String) (keyword : String)
    (ps : List (Predicate Column)) :
    (clause keyword (Predicate.conjunction ps)).written write = writtenClause write keyword ps := by
  rcases ps with _ | ⟨p, ps⟩
  · rfl
  · -- no predicate is an empty fragment, so the keyword is written
    have hne : Predicate.conjunction (p :: ps) ≠ [] := by
      intro hnil
      have hp : p.fragment ≠ [] := by cases p <;> simp [Predicate.fragment]
      rcases ps with _ | ⟨q, ps⟩
      · exact hp hnil
      · exact hp (List.append_eq_nil_iff.1 hnil).1
    have hclause : clause keyword (Predicate.conjunction (p :: ps))
        = .text keyword :: Predicate.conjunction (p :: ps) := by
      rcases hc : Predicate.conjunction (p :: ps) with _ | ⟨piece, f⟩
      · exact absurd hc hne
      · rfl
    rw [hclause, Fragment.written_text, Predicate.written_conjunction]
    rfl

theorem written_fragment (write : Scalar → String) (s : Select) (backend : Backend) :
    (s.fragment backend).written write = s.written write backend := by
  simp only [fragment, written, List.cons_append, Fragment.written_text, Fragment.written_append,
    written_clause, Fragment.written_hole, Fragment.written_nil, String.append_assoc,
    String.append_empty]

/-- Where a statement's texts are free of marks, its values are in step with its marks. -/
theorem aligned {s : Select} {backend : Backend} (h : s.MarkFree backend) :
    Aligned (s.fragment backend).sql (s.fragment backend).values
      fun write => s.written write backend := by
  have hfragment : (s.fragment backend).MarkFree := by
    have hwhere := markFree_clause (by decide : NoMark " WHERE ")
      (Predicate.markFree_conjunction h.conditions)
    have hhaving := markFree_clause (by decide : NoMark " HAVING ")
      (Predicate.markFree_conjunction h.having)
    simp +decide [fragment, h.head, h.groupBy, h.order, hwhere, hhaving]
  have haligned := Fragment.aligned hfragment
  refine ⟨haligned.count, fun write => ?_⟩
  rw [haligned.fill, written_fragment]

end Select

end Compendium
