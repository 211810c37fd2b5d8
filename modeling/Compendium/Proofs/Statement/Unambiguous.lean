import Std.Data.String.ToInt
import Compendium.Proofs.Statement.Marks

/-!
# Compendium — predicates are read back in one way

The SQL of a list of predicates, together with its values, says which predicates they are. The kind of
a predicate shows in its first word and what comes behind it, names and numbers end where a blank or
a bracket stands, and `AND` and `OR` are told from the keywords of a subquery. So the text can be read
from the front, one predicate after the other, and every bracket closes what it was opened for.

* `Unread` is what is still to be read, and `Fragment.before` puts a fragment in front of it.
* `Predicate.kindAt_before` says that the kind of a predicate shows in its text.
* `Predicate.before_injective` takes one predicate off the front, by induction on the tree, together
  with its companions for lists and for the condition on the groups of a subquery.
* `conjunction_reads_back` is the law for lists of predicates.
-/

namespace Compendium

/-- A column or a table as it may be named in a predicate. -/
def IsName (s : String) : Prop := s ≠ "" ∧ ∀ c ∈ s.toList, c.isAlphanum ∨ c = '_' ∨ c = '.'

-- to decide it, only the characters of the text are looked at, not all that there are
instance (s : String) : Decidable (IsName s) :=
  @instDecidableAnd _ _ inferInstance (List.decidableBAll _ _)

/-! ## Words

Names and numbers are words. A word goes on up to a blank or a bracket. -/

def isWordChar (c : Char) : Bool := c != ' ' && c != '(' && c != ')'

def IsWord (s : String) : Prop := ∀ c ∈ s.toList, isWordChar c = true

/-- A text is a word if all its characters have a property that blanks and brackets do not. -/
theorem isWord_of_forall {s : String} {p : Char → Prop} (h : ∀ c ∈ s.toList, p c)
    (hblank : ¬p ' ') (hopen : ¬p '(') (hclose : ¬p ')') : IsWord s := by
  intro c hc
  rw [isWordChar, Bool.and_eq_true, Bool.and_eq_true, bne_iff_ne, bne_iff_ne, bne_iff_ne]
  have hp := h c hc
  refine ⟨⟨?_, ?_⟩, ?_⟩
  · rintro rfl
    exact hblank hp
  · rintro rfl
    exact hopen hp
  · rintro rfl
    exact hclose hp

/-- Letters, digits, underscores and dots are no blanks or brackets. -/
theorem IsName.isWord {s : String} (h : IsName s) : IsWord s :=
  isWord_of_forall h.2 (by decide) (by decide) (by decide)

theorem isWord_intRepr (n : Int) : IsWord n.repr :=
  isWord_of_forall (fun _ hc => sign_or_isDigit_of_mem_intRepr hc) (by decide) (by decide)
    (by decide)

theorem intRepr_ne_empty (n : Int) : n.repr ≠ "" := by
  rcases n with n | n
  · exact Nat.repr_ne_empty
  · show "-" ++ (n + 1).repr ≠ ""
    simp

/-- A text that starts with no character of a word. -/
def breaksWord (s : String) : Bool := s.toList.head?.any fun c => !isWordChar c

/-- A text that starts as what follows a predicate does, with a blank or a closing bracket. -/
def endsPredicate (s : String) : Bool := s.toList.head?.any fun c => decide (c = ' ' ∨ c = ')')

/-! ## What is still to be read -/

/-- The rest of a text, and the values that its marks are still to take. -/
structure Unread where
  chars : List Char
  values : List Scalar

namespace Unread

def withText (s : String) (u : Unread) : Unread := ⟨s.toList ++ u.chars, u.values⟩

def withHole (v : Scalar) (u : Unread) : Unread := ⟨'?' :: u.chars, v :: u.values⟩

/-- No word goes on here. -/
def AtBreak (u : Unread) : Prop := ∀ c ∈ u.chars.head?, isWordChar c = false

/-- A predicate may have ended here: nothing follows, or a blank or a closing bracket does. -/
def AtEnd (u : Unread) : Prop := ∀ c ∈ u.chars.head?, c = ' ' ∨ c = ')'

variable {u w : Unread}

/-- A text in two parts is put in front from the back. -/
theorem withText_append (s t : String) (u : Unread) :
    u.withText (s ++ t) = (u.withText t).withText s := by
  rw [withText, withText, withText, String.toList_append, List.append_assoc]

theorem withText_inj {s : String} : u.withText s = w.withText s ↔ u = w := by
  cases u
  cases w
  simp [withText]

/-- A mark gives the first value back. -/
theorem withHole_inj {v v' : Scalar} : u.withHole v = w.withHole v' ↔ v = v' ∧ u = w := by
  cases u
  cases w
  simp only [withHole, mk.injEq, List.cons.injEq, true_and]
  exact and_left_comm

/-- A predicate ends where a word does. -/
theorem AtEnd.atBreak (h : u.AtEnd) : u.AtBreak := by
  intro c hc
  rcases h c hc with rfl | rfl <;> rfl

/-- What was put in front of a break is the word up to it. -/
theorem takeWhile_withText {s : String} (hs : IsWord s) (hu : u.AtBreak) :
    (u.withText s).chars.takeWhile isWordChar = s.toList
      ∧ (u.withText s).chars.dropWhile isWordChar = u.chars := by
  rw [withText, List.takeWhile_append_of_pos hs, List.dropWhile_append_of_pos hs]
  -- what follows starts with no character of a word, or is empty
  rcases hchars : u.chars with _ | ⟨c, cs⟩
  · simp
  · have hc : isWordChar c = false := hu c (by rw [hchars]; rfl)
    simp [hc]

/-- The text in front has the first character, if it has any. -/
theorem head?_withText {s : String} {p : Char → Bool} (h : s.toList.head?.any p) (u : Unread) :
    ∀ c ∈ (u.withText s).chars.head?, p c = true := by
  obtain ⟨c, hhead, hc⟩ := (Option.any_eq_true p _).1 h
  rw [withText, List.head?_append, hhead]
  intro d hd
  cases hd
  exact hc

/-- A keyword with a blank or a bracket in front ends the word before it. -/
theorem atBreak_withText {s : String} (hs : breaksWord s) (u : Unread) : (u.withText s).AtBreak :=
  fun c hc => by simpa using head?_withText hs u c hc

theorem atEnd_withText {s : String} (hs : endsPredicate s) (u : Unread) : (u.withText s).AtEnd :=
  fun c hc => of_decide_eq_true (head?_withText hs u c hc)

/-- Words end where they end, so they can be compared. -/
theorem withText_word_inj {s t : String} (hs : IsWord s) (ht : IsWord t) (hu : u.AtBreak)
    (hw : w.AtBreak) (h : u.withText s = w.withText t) : s = t ∧ u = w := by
  have hword : s = t := by
    rw [← String.toList_inj, ← (takeWhile_withText hs hu).1, h, (takeWhile_withText ht hw).1]
  subst hword
  exact ⟨rfl, withText_inj.1 h⟩

/-- A name ends where the same keyword follows it, if a name cannot go on with that. -/
theorem withName_inj {s t keyword : String} (hs : IsName s) (ht : IsName t)
    (hkeyword : breaksWord keyword)
    (h : (u.withText keyword).withText s = (w.withText keyword).withText t) : s = t ∧ u = w := by
  obtain ⟨hname, hrest⟩ := withText_word_inj hs.isWord ht.isWord (atBreak_withText hkeyword u)
    (atBreak_withText hkeyword w) h
  exact ⟨hname, withText_inj.1 hrest⟩

/-- The text goes on with `s`. -/
def StartsWith (u : Unread) (s : String) : Prop := s.toList <+: u.chars

theorem startsWith_of_eq {s : String} (h : u = w.withText s) : u.StartsWith s := by
  rw [h]
  exact List.prefix_append _ _

/-- Two texts of which neither begins the other do not begin the same text. -/
theorem not_startsWith_withText {s t : String} (hs : ¬s.toList <+: t.toList)
    (ht : ¬t.toList <+: s.toList) (u : Unread) : ¬(u.withText t).StartsWith s := by
  intro h
  rcases List.prefix_or_prefix_of_prefix h (startsWith_of_eq rfl) with hprefix | hprefix
  · exact hs hprefix
  · exact ht hprefix

theorem withText_ne {s t : String} (hs : ¬s.toList <+: t.toList) (ht : ¬t.toList <+: s.toList) :
    u.withText s ≠ w.withText t := fun h =>
  not_startsWith_withText hs ht w (startsWith_of_eq h.symm)

theorem bracket_ne_withHole (v : Scalar) : u.withText ")" ≠ w.withHole v := by
  intro h
  have hhead := congrArg (fun u => u.chars.head?) h
  simp [withText, withHole] at hhead

end Unread

namespace Fragment

/-- The fragment stands in front of what is still to be read. -/
def before (f : Fragment) (u : Unread) : Unread := ⟨f.sql.toList ++ u.chars, f.values ++ u.values⟩

@[simp] theorem before_nil (u : Unread) : before [] u = u := rfl

@[simp] theorem before_text (s : String) (f : Fragment) (u : Unread) :
    before (.text s :: f) u = (f.before u).withText s := by
  rw [before, sql_text, String.toList_append, List.append_assoc]
  rfl

@[simp] theorem before_hole (v : Scalar) (f : Fragment) (u : Unread) :
    before (.hole v :: f) u = (f.before u).withHole v := by
  rw [before, sql_hole, String.toList_append]
  rfl

@[simp] theorem before_append (f g : Fragment) (u : Unread) :
    before (f ++ g) u = f.before (g.before u) := by
  rw [before, before, before, sql_append, values_append, String.toList_append, List.append_assoc,
    List.append_assoc]

/-- With nothing behind it a fragment is its text and its values. -/
theorem before_mk_nil (f : Fragment) : f.before ⟨[], []⟩ = ⟨f.sql.toList, f.values⟩ := by
  rw [before, List.append_nil, List.append_nil]

/-- Each fragment with the separator before it. -/
def eachAfter (separator : String) (fs : List Fragment) : Fragment :=
  fs.flatMap fun f => .text separator :: f

theorem before_eachAfter_nil (separator : String) (u : Unread) :
    (eachAfter separator []).before u = u := rfl

/-- The first separator is the first thing to be read. -/
theorem before_eachAfter_cons (separator : String) (f : Fragment) (fs : List Fragment)
    (u : Unread) :
    (eachAfter separator (f :: fs)).before u
      = (f.before ((eachAfter separator fs).before u)).withText separator := by
  show before (.text separator :: (f ++ eachAfter separator fs)) u = _
  rw [before_text, before_append]

theorem before_joined_nil (separator : String) (u : Unread) : (joined separator []).before u = u :=
  rfl

/-- Before the first fragment there is no separator. -/
theorem before_joined_cons (separator : String) (f : Fragment) (fs : List Fragment)
    (u : Unread) :
    (joined separator (f :: fs)).before u = f.before ((eachAfter separator fs).before u) := by
  induction fs generalizing f with
  | nil => rfl
  | cons g gs ih =>
    show before (f ++ .text separator :: joined separator (g :: gs)) u = _
    rw [before_append, before_text, ih, before_eachAfter_cons]

-- from here on a fragment is taken apart by the equations above alone
attribute [irreducible] before

end Fragment

namespace Predicate

variable {κ : Type}

/-! ## Kinds of predicates -/

inductive Kind where
  | eq
  | like
  | isIn
  | fixed
  | countDistinct
  | anyOf
  | rowExists

def kind : Predicate κ → Kind
  | eq _ _ => .eq
  | like _ _ => .like
  | isIn _ _ => .isIn
  | fixed _ _ => .fixed
  | countDistinct _ _ => .countDistinct
  | anyOf _ => .anyOf
  | rowExists _ _ _ _ _ _ => .rowExists

/-- The kind of a predicate by what comes behind its first word. -/
def kindAfterWord : List Char → Kind
  | ' ' :: '=' :: ' ' :: '?' :: _ => .eq
  | ' ' :: '=' :: _ => .fixed
  | ' ' :: 'L' :: _ => .like
  | ' ' :: 'I' :: _ => .isIn
  | ' ' :: _ => .rowExists
  | _ => .countDistinct

/-- The kind of the predicate that a text begins with. Only alternatives begin without a word. -/
def kindAt (u : Unread) : Kind :=
  if (u.chars.takeWhile isWordChar).isEmpty then .anyOf
  else kindAfterWord (u.chars.dropWhile isWordChar)

theorem kindAt_withText {s : String} (hne : s ≠ "") (hs : IsWord s) {u : Unread}
    (hu : u.AtBreak) : kindAt (u.withText s) = kindAfterWord u.chars := by
  obtain ⟨htake, hdrop⟩ := Unread.takeWhile_withText hs hu
  have hnil : ¬s.toList.isEmpty = true := by
    rw [List.isEmpty_iff]
    exact fun h => hne (String.toList_injective h)
  rw [kindAt, htake, hdrop, if_neg hnil]

theorem kindAt_column {s keyword : String} (h : IsName s) (hkeyword : breaksWord keyword)
    (u : Unread) :
    kindAt ((u.withText keyword).withText s) = kindAfterWord (keyword.toList ++ u.chars) :=
  kindAt_withText h.1 h.isWord (Unread.atBreak_withText hkeyword u)

/-- A number is no mark. -/
theorem kindAfterWord_number (n : Int) (cs : List Char) :
    kindAfterWord (' ' :: '=' :: ' ' :: (n.repr.toList ++ cs)) = .fixed := by
  rcases hrepr : n.repr.toList with _ | ⟨c, ds⟩
  · exact absurd (String.toList_injective hrepr) (intRepr_ne_empty n)
  · have hc : c ≠ '?' := by
      rintro rfl
      exact noMark_intRepr n (by rw [hrepr]; exact List.mem_cons_self)
    simp [kindAfterWord, hc]

variable [ColumnText κ]

open ColumnText (text)

/-- Everything that the predicate names has a name. -/
def Named (p : Predicate κ) : Prop := ∀ s ∈ p.texts, IsName s

/-! Every predicate as what it puts in front. -/

section

variable (column : κ) (u : Unread)

theorem before_eq (value : Scalar) : (eq column value).fragment.before u
    = ((u.withHole value).withText " = ").withText (text column) := by
  rw [fragment, Fragment.before_text, Fragment.before_hole, Fragment.before_nil,
    Unread.withText_append]

theorem before_like (pattern : Scalar) : (like column pattern).fragment.before u
    = ((u.withHole pattern).withText " LIKE ").withText (text column) := by
  rw [fragment, Fragment.before_text, Fragment.before_hole, Fragment.before_nil,
    Unread.withText_append]

theorem before_isIn (values : List Scalar) : (isIn column values).fragment.before u
    = (((holes values).before (u.withText ")")).withText " IN (").withText (text column) := by
  rw [fragment, List.cons_append, Fragment.before_text, Fragment.before_append,
    Fragment.before_text, Fragment.before_nil, Unread.withText_append]

theorem before_fixed (value : Int64) : (fixed column value).fragment.before u
    = ((u.withText value.toInt.repr).withText " = ").withText (text column) := by
  rw [fragment, Fragment.before_text, Fragment.before_nil, Unread.withText_append,
    Unread.withText_append]
  rfl

theorem before_countDistinct (count : Int64) : (countDistinct column count).fragment.before u
    = (((u.withHole (.int count)).withText ") = ").withText (text column)).withText
        "COUNT(DISTINCT " := by
  rw [fragment, Fragment.before_text, Fragment.before_hole, Fragment.before_nil,
    Unread.withText_append, Unread.withText_append]

theorem before_anyOf (terms : List (Predicate κ)) : (anyOf terms).fragment.before u
    = ((Fragment.joined " OR " (fragments terms)).before (u.withText ")")).withText "(" := by
  rw [fragment, List.cons_append, Fragment.before_text, Fragment.before_append,
    Fragment.before_text, Fragment.before_nil]

theorem before_groupBy_none : (groupByFragment (none : Option κ)).before u = u := by
  rw [groupByFragment, Fragment.before_nil]

theorem before_groupBy_some : (groupByFragment (some column)).before u
    = (u.withText (text column)).withText " GROUP BY " := by
  rw [groupByFragment, Fragment.before_text, Fragment.before_nil, Unread.withText_append]

theorem before_having_none : (havingFragment (none : Option (Predicate κ))).before u = u := by
  rw [havingFragment, Fragment.before_nil]

theorem before_having_some (p : Predicate κ) : (havingFragment (some p)).before u
    = (p.fragment.before u).withText " HAVING " := by
  rw [havingFragment, Fragment.before_text]

/-- The part of a subquery that stands behind its conditions, in front of what follows. -/
def subqueryEnd (groupBy : Option κ) (having : Option (Predicate κ)) (u : Unread) : Unread :=
  (groupByFragment groupBy).before ((havingFragment having).before (u.withText ")"))

theorem before_rowExists (table : Table) (inner outer : κ) (conditions : List (Predicate κ))
    (groupBy : Option κ) (having : Option (Predicate κ)) :
    (rowExists table inner outer conditions groupBy having).fragment.before u
      = (((((((((Fragment.eachAfter " AND " (fragments conditions)).before
        (subqueryEnd groupBy having u)).withText (text outer)).withText " = ").withText
        (text inner)).withText " WHERE ").withText table.label).withText " ").withText
        table.name).withText "EXISTS (SELECT 1 FROM " := by
  simp only [fragment, List.cons_append, Fragment.before_text, Fragment.before_append,
    Fragment.before_nil, Unread.withText_append]
  rfl

end

/-- The first word, and what comes behind it, tell a predicate's kind. -/
theorem kindAt_before (p : Predicate κ) (h : p.Named) (u : Unread) :
    kindAt (p.fragment.before u) = p.kind := by
  cases p with
  | eq column value =>
    rw [before_eq, kindAt_column (h _ (by simp [texts])) (by decide)]
    rfl
  | like column pattern =>
    rw [before_like, kindAt_column (h _ (by simp [texts])) (by decide)]
    rfl
  | isIn column values =>
    rw [before_isIn, kindAt_column (h _ (by simp [texts])) (by decide)]
    rfl
  | fixed column value =>
    rw [before_fixed, kindAt_column (h _ (by simp [texts])) (by decide)]
    exact kindAfterWord_number value.toInt u.chars
  | countDistinct column count =>
    rw [before_countDistinct]
    rfl
  | anyOf terms =>
    rw [before_anyOf]
    rfl
  | rowExists table inner outer conditions groupBy having =>
    rw [before_rowExists]
    rfl

theorem kind_eq_of_before_eq {p q : Predicate κ} (hp : p.Named) (hq : q.Named) {u w : Unread}
    (h : p.fragment.before u = q.fragment.before w) : p.kind = q.kind := by
  rw [← kindAt_before p hp u, h, kindAt_before q hq w]

/-! ## Where predicates end -/

/-- No predicate begins like what follows one. -/
theorem not_atEnd_before (p : Predicate κ) (h : p.Named) (u : Unread) :
    ¬(p.fragment.before u).AtEnd := by
  intro hend
  -- a text that begins like the end of a predicate begins without a word
  have hkind : p.kind = .anyOf := by
    rw [← kindAt_before p h u, kindAt]
    rcases hchars : (p.fragment.before u).chars with _ | ⟨c, cs⟩
    · rfl
    · have hc : isWordChar c = false := hend.atBreak c (by rw [hchars]; rfl)
      simp [hc]
  -- only alternatives are left, and they begin with a bracket that opens
  cases p with
  | anyOf terms =>
    rw [before_anyOf] at hend
    exact absurd (hend '(' rfl) (by decide)
  | _ => cases hkind

/-- A predicate that is followed by others, or by nothing, is at its end. -/
theorem atEnd_eachAfter {separator : String} (hseparator : endsPredicate separator)
    (fs : List Fragment) {u : Unread} (hu : u.AtEnd) :
    ((Fragment.eachAfter separator fs).before u).AtEnd := by
  cases fs with
  | nil =>
    rw [Fragment.before_eachAfter_nil]
    exact hu
  | cons f fs =>
    rw [Fragment.before_eachAfter_cons]
    exact Unread.atEnd_withText hseparator _

section

variable (groupBy : Option κ) (having : Option (Predicate κ)) (u : Unread)

/-- Behind the grouping of a subquery there is a keyword or a bracket. -/
theorem atEnd_having : ((havingFragment having).before (u.withText ")")).AtEnd := by
  cases having with
  | none =>
    rw [before_having_none]
    exact Unread.atEnd_withText (by decide) u
  | some p =>
    rw [before_having_some]
    exact Unread.atEnd_withText (by decide) _

/-- Behind the grouping nothing is taken for another condition or another grouping. -/
theorem not_startsWith_having {s : String} (hs : s = " AND " ∨ s = " GROUP BY ") :
    ¬((havingFragment having).before (u.withText ")")).StartsWith s := by
  cases having with
  | none =>
    rw [before_having_none]
    rcases hs with rfl | rfl
    · exact Unread.not_startsWith_withText (by decide) (by decide) u
    · exact Unread.not_startsWith_withText (by decide) (by decide) u
  | some p =>
    rw [before_having_some]
    rcases hs with rfl | rfl
    · exact Unread.not_startsWith_withText (by decide) (by decide) _
    · exact Unread.not_startsWith_withText (by decide) (by decide) _

/-- Behind the conditions of a subquery the last of them has ended. -/
theorem atEnd_subqueryEnd : (subqueryEnd groupBy having u).AtEnd := by
  cases groupBy with
  | none =>
    rw [subqueryEnd, before_groupBy_none]
    exact atEnd_having having u
  | some column =>
    rw [subqueryEnd, before_groupBy_some]
    exact Unread.atEnd_withText (by decide) _

theorem not_startsWith_subqueryEnd : ¬(subqueryEnd groupBy having u).StartsWith " AND " := by
  cases groupBy with
  | none =>
    rw [subqueryEnd, before_groupBy_none]
    exact not_startsWith_having having u (.inl rfl)
  | some column =>
    rw [subqueryEnd, before_groupBy_some]
    exact Unread.not_startsWith_withText (by decide) (by decide) _

end

/-! ## Taking predicates off the front -/

/-- Values behind the first one have a comma before each of them. -/
theorem before_commas_injective {vs ws : List Scalar} {u w : Unread}
    (h : (Fragment.eachAfter ", " (vs.map fun v => [.hole v])).before (u.withText ")")
      = (Fragment.eachAfter ", " (ws.map fun v => [.hole v])).before (w.withText ")")) :
    vs = ws ∧ u = w := by
  -- a comma means one more value, a bracket that there is none
  induction vs generalizing ws with
  | nil =>
    rw [List.map_nil, Fragment.before_eachAfter_nil] at h
    cases ws with
    | nil =>
      rw [List.map_nil, Fragment.before_eachAfter_nil] at h
      exact ⟨rfl, Unread.withText_inj.1 h⟩
    | cons v' ws =>
      rw [List.map_cons, Fragment.before_eachAfter_cons] at h
      exact absurd h (Unread.withText_ne (by decide) (by decide))
  | cons v vs ih =>
    rw [List.map_cons, Fragment.before_eachAfter_cons] at h
    cases ws with
    | nil =>
      rw [List.map_nil, Fragment.before_eachAfter_nil] at h
      exact absurd h (Unread.withText_ne (by decide) (by decide))
    | cons v' ws =>
      rw [List.map_cons, Fragment.before_eachAfter_cons, Unread.withText_inj, Fragment.before_hole,
        Fragment.before_hole, Fragment.before_nil, Fragment.before_nil, Unread.withHole_inj] at h
      obtain ⟨hothers, hend⟩ := ih h.2
      rw [h.1, hothers]
      exact ⟨rfl, hend⟩

/-- Values between brackets can be taken off one by one. -/
theorem before_holes_injective {vs ws : List Scalar} {u w : Unread}
    (h : (holes vs).before (u.withText ")") = (holes ws).before (w.withText ")")) :
    vs = ws ∧ u = w := by
  rw [holes, holes] at h
  -- the first value has no comma in front, so it is taken by itself
  cases vs with
  | nil =>
    rw [List.map_nil, Fragment.before_joined_nil] at h
    cases ws with
    | nil =>
      rw [List.map_nil, Fragment.before_joined_nil] at h
      exact ⟨rfl, Unread.withText_inj.1 h⟩
    | cons v' ws =>
      rw [List.map_cons, Fragment.before_joined_cons, Fragment.before_hole,
        Fragment.before_nil] at h
      exact absurd h (Unread.bracket_ne_withHole v')
  | cons v vs =>
    rw [List.map_cons, Fragment.before_joined_cons, Fragment.before_hole, Fragment.before_nil] at h
    cases ws with
    | nil =>
      rw [List.map_nil, Fragment.before_joined_nil] at h
      exact absurd h.symm (Unread.bracket_ne_withHole v)
    | cons v' ws =>
      rw [List.map_cons, Fragment.before_joined_cons, Fragment.before_hole, Fragment.before_nil,
        Unread.withHole_inj] at h
      obtain ⟨hothers, hend⟩ := before_commas_injective h.2
      rw [h.1, hothers]
      exact ⟨rfl, hend⟩

/-- The keyword tells whether there is a column to group by. -/
theorem before_groupBy_injective (htext : Function.Injective (text : κ → String))
    {groupBy groupBy' : Option κ} (hname : ∀ c ∈ groupBy, IsName (text c))
    (hname' : ∀ c ∈ groupBy', IsName (text c)) {u w : Unread} (hu : u.AtEnd) (hw : w.AtEnd)
    (hnot : ¬u.StartsWith " GROUP BY ") (hnot' : ¬w.StartsWith " GROUP BY ")
    (h : (groupByFragment groupBy).before u = (groupByFragment groupBy').before w) :
    groupBy = groupBy' ∧ u = w := by
  cases groupBy with
  | none =>
    rw [before_groupBy_none] at h
    cases groupBy' with
    | none =>
      rw [before_groupBy_none] at h
      exact ⟨rfl, h⟩
    | some column' =>
      rw [before_groupBy_some] at h
      exact absurd (Unread.startsWith_of_eq h) hnot
  | some column =>
    cases groupBy' with
    | none =>
      rw [before_groupBy_none, before_groupBy_some] at h
      exact absurd (Unread.startsWith_of_eq h.symm) hnot'
    | some column' =>
      rw [before_groupBy_some, before_groupBy_some, Unread.withText_inj] at h
      obtain ⟨hcolumn, hend⟩ := Unread.withText_word_inj (hname column rfl).isWord
        (hname' column' rfl).isWord hu.atBreak hw.atBreak h
      rw [htext hcolumn]
      exact ⟨rfl, hend⟩

theorem named_cons {p : Predicate κ} {ps : List (Predicate κ)}
    (h : ∀ s ∈ textsOfAll (p :: ps), IsName s) : p.Named ∧ ∀ s ∈ textsOfAll ps, IsName s := by
  rw [textsOfAll, List.forall_mem_append] at h
  exact h

mutual

/-- A predicate in front is told apart from all others, and so is what follows it. -/
theorem before_injective (htext : Function.Injective (text : κ → String)) :
    (p : Predicate κ) → p.Named → ∀ {q : Predicate κ}, q.Named → ∀ {u w : Unread}, u.AtEnd →
      w.AtEnd → p.fragment.before u = q.fragment.before w → p = q ∧ u = w
  | eq column value, hp, q, hq, u, w, _, _, h => by
    have hkind := kind_eq_of_before_eq hp hq h
    cases q with
    | eq column' value' =>
      rw [before_eq, before_eq] at h
      obtain ⟨hcolumn, hrest⟩ := Unread.withName_inj (hp _ (by simp [texts]))
        (hq _ (by simp [texts])) (by decide) h
      rw [Unread.withHole_inj] at hrest
      rw [htext hcolumn, hrest.1]
      exact ⟨rfl, hrest.2⟩
    | _ => cases hkind
  | like column pattern, hp, q, hq, u, w, _, _, h => by
    have hkind := kind_eq_of_before_eq hp hq h
    cases q with
    | like column' pattern' =>
      rw [before_like, before_like] at h
      obtain ⟨hcolumn, hrest⟩ := Unread.withName_inj (hp _ (by simp [texts]))
        (hq _ (by simp [texts])) (by decide) h
      rw [Unread.withHole_inj] at hrest
      rw [htext hcolumn, hrest.1]
      exact ⟨rfl, hrest.2⟩
    | _ => cases hkind
  | isIn column values, hp, q, hq, u, w, _, _, h => by
    have hkind := kind_eq_of_before_eq hp hq h
    cases q with
    | isIn column' values' =>
      rw [before_isIn, before_isIn] at h
      obtain ⟨hcolumn, hrest⟩ := Unread.withName_inj (hp _ (by simp [texts]))
        (hq _ (by simp [texts])) (by decide) h
      obtain ⟨hvalues, hend⟩ := before_holes_injective hrest
      rw [htext hcolumn, hvalues]
      exact ⟨rfl, hend⟩
    | _ => cases hkind
  | fixed column value, hp, q, hq, u, w, hu, hw, h => by
    have hkind := kind_eq_of_before_eq hp hq h
    cases q with
    | fixed column' value' =>
      rw [before_fixed, before_fixed] at h
      obtain ⟨hcolumn, hrest⟩ := Unread.withName_inj (hp _ (by simp [texts]))
        (hq _ (by simp [texts])) (by decide) h
      -- the number goes on up to the end of the predicate
      obtain ⟨hvalue, hend⟩ := Unread.withText_word_inj (isWord_intRepr value.toInt)
        (isWord_intRepr value'.toInt) hu.atBreak hw.atBreak hrest
      rw [htext hcolumn, Int64.toInt_inj.1 (Int.repr_inj.1 hvalue)]
      exact ⟨rfl, hend⟩
    | _ => cases hkind
  | countDistinct column count, hp, q, hq, u, w, _, _, h => by
    have hkind := kind_eq_of_before_eq hp hq h
    cases q with
    | countDistinct column' count' =>
      rw [before_countDistinct, before_countDistinct, Unread.withText_inj] at h
      obtain ⟨hcolumn, hrest⟩ := Unread.withName_inj (hp _ (by simp [texts]))
        (hq _ (by simp [texts])) (by decide) h
      rw [Unread.withHole_inj, Scalar.int.injEq] at hrest
      rw [htext hcolumn, hrest.1]
      exact ⟨rfl, hrest.2⟩
    | _ => cases hkind
  | anyOf terms, hp, q, hq, u, w, _, _, h => by
    have hkind := kind_eq_of_before_eq hp hq h
    cases q with
    | anyOf terms' =>
      rw [before_anyOf, before_anyOf, Unread.withText_inj] at h
      obtain ⟨hterms, hend⟩ := before_joined_injective htext terms hp
        (by decide : endsPredicate " OR ") hq
        (Unread.atEnd_withText (by decide) u) (Unread.atEnd_withText (by decide) w)
        (Unread.not_startsWith_withText (by decide) (by decide) u)
        (Unread.not_startsWith_withText (by decide) (by decide) w) h
      rw [hterms]
      exact ⟨rfl, Unread.withText_inj.1 hend⟩
    | _ => cases hkind
  | rowExists table inner outer conditions groupBy having, hp, q, hq, u, w, _, _, h => by
    have hkind := kind_eq_of_before_eq hp hq h
    cases q with
    | rowExists table' inner' outer' conditions' groupBy' having' =>
      rw [before_rowExists, before_rowExists, Unread.withText_inj] at h
      obtain ⟨hname, h⟩ := Unread.withName_inj (hp _ (by simp [texts]))
        (hq _ (by simp [texts])) (by decide) h
      obtain ⟨hlabel, h⟩ := Unread.withName_inj (hp _ (by simp [texts]))
        (hq _ (by simp [texts])) (by decide) h
      obtain ⟨hinner, h⟩ := Unread.withName_inj (hp _ (by simp [texts]))
        (hq _ (by simp [texts])) (by decide) h
      -- behind the two ids come the conditions, the grouping and its condition
      have hend := atEnd_subqueryEnd groupBy having u
      have hend' := atEnd_subqueryEnd groupBy' having' w
      have hseparator : endsPredicate " AND " := by decide
      obtain ⟨houter, h⟩ := Unread.withText_word_inj (hp (text outer) (by simp [texts])).isWord
        (hq (text outer') (by simp [texts])).isWord (atEnd_eachAfter hseparator _ hend).atBreak
        (atEnd_eachAfter hseparator _ hend').atBreak h
      obtain ⟨hconditions, h⟩ := before_eachAfter_injective htext conditions
        (fun s hs => hp s (by simp [texts, hs])) hseparator (fun s hs => hq s (by simp [texts, hs]))
        hend hend' (not_startsWith_subqueryEnd groupBy having u)
        (not_startsWith_subqueryEnd groupBy' having' w) h
      obtain ⟨hgroupBy, h⟩ := before_groupBy_injective htext
        (fun c hc => hp _ (by simp [texts, Option.mem_def.1 hc]))
        (fun c hc => hq _ (by simp [texts, Option.mem_def.1 hc]))
        (atEnd_having having u) (atEnd_having having' w)
        (not_startsWith_having having u (.inr rfl)) (not_startsWith_having having' w (.inr rfl)) h
      obtain ⟨hhaving, hrest⟩ := before_having_injective htext having
        (fun s hs => hp s (by simp [texts, hs])) (fun s hs => hq s (by simp [texts, hs])) h
      have htable : table = table' := by
        cases table
        cases table'
        rw [Table.mk.injEq]
        exact ⟨hname, hlabel⟩
      rw [htable, htext hinner, htext houter, hconditions, hgroupBy, hhaving]
      exact ⟨rfl, hrest⟩
    | _ => cases hkind

/-- A list of terms is told by its first term and by those behind separators. -/
theorem before_joined_injective (htext : Function.Injective (text : κ → String)) :
    (ps : List (Predicate κ)) → (∀ s ∈ textsOfAll ps, IsName s) →
    ∀ {separator : String}, endsPredicate separator →
    ∀ {qs : List (Predicate κ)}, (∀ s ∈ textsOfAll qs, IsName s) →
    ∀ {u w : Unread}, u.AtEnd → w.AtEnd → ¬u.StartsWith separator → ¬w.StartsWith separator →
      (Fragment.joined separator (fragments ps)).before u
          = (Fragment.joined separator (fragments qs)).before w →
        ps = qs ∧ u = w
  | [], _, separator, _, qs, hqs, u, w, hu, hw, _, _, h => by
    rw [fragments, Fragment.before_joined_nil] at h
    cases qs with
    | nil =>
      rw [fragments, Fragment.before_joined_nil] at h
      exact ⟨rfl, h⟩
    | cons q qs =>
      rw [fragments, Fragment.before_joined_cons] at h
      rw [h] at hu
      exact absurd hu (not_atEnd_before q (named_cons hqs).1 _)
  | p :: ps, hps, separator, hseparator, qs, hqs, u, w, hu, hw, hnot, hnot', h => by
    obtain ⟨hp, hps'⟩ := named_cons hps
    rw [fragments, Fragment.before_joined_cons] at h
    cases qs with
    | nil =>
      rw [fragments, Fragment.before_joined_nil] at h
      rw [← h] at hw
      exact absurd hw (not_atEnd_before p hp _)
    | cons q qs =>
      obtain ⟨hq, hqs'⟩ := named_cons hqs
      rw [fragments, Fragment.before_joined_cons] at h
      obtain ⟨hfirst, hrest⟩ := before_injective htext p hp hq (atEnd_eachAfter hseparator _ hu)
        (atEnd_eachAfter hseparator _ hw) h
      obtain ⟨hothers, hend⟩ :=
        before_eachAfter_injective htext ps hps' hseparator hqs' hu hw hnot hnot' hrest
      rw [hfirst, hothers]
      exact ⟨rfl, hend⟩

/-- Every separator announces one more predicate, and none comes unannounced. -/
theorem before_eachAfter_injective (htext : Function.Injective (text : κ → String)) :
    (ps : List (Predicate κ)) → (∀ s ∈ textsOfAll ps, IsName s) →
    ∀ {separator : String}, endsPredicate separator →
    ∀ {qs : List (Predicate κ)}, (∀ s ∈ textsOfAll qs, IsName s) →
    ∀ {u w : Unread}, u.AtEnd → w.AtEnd → ¬u.StartsWith separator → ¬w.StartsWith separator →
      (Fragment.eachAfter separator (fragments ps)).before u
          = (Fragment.eachAfter separator (fragments qs)).before w →
        ps = qs ∧ u = w
  | [], _, separator, _, qs, _, u, w, _, _, hnot, _, h => by
    rw [fragments, Fragment.before_eachAfter_nil] at h
    cases qs with
    | nil =>
      rw [fragments, Fragment.before_eachAfter_nil] at h
      exact ⟨rfl, h⟩
    | cons q qs =>
      rw [fragments, Fragment.before_eachAfter_cons] at h
      exact absurd (Unread.startsWith_of_eq h) hnot
  | p :: ps, hps, separator, hseparator, qs, hqs, u, w, hu, hw, hnot, hnot', h => by
    obtain ⟨hp, hps'⟩ := named_cons hps
    rw [fragments, Fragment.before_eachAfter_cons] at h
    cases qs with
    | nil =>
      rw [fragments, Fragment.before_eachAfter_nil] at h
      exact absurd (Unread.startsWith_of_eq h.symm) hnot'
    | cons q qs =>
      obtain ⟨hq, hqs'⟩ := named_cons hqs
      rw [fragments, Fragment.before_eachAfter_cons, Unread.withText_inj] at h
      obtain ⟨hfirst, hrest⟩ := before_injective htext p hp hq (atEnd_eachAfter hseparator _ hu)
        (atEnd_eachAfter hseparator _ hw) h
      obtain ⟨hothers, hend⟩ :=
        before_eachAfter_injective htext ps hps' hseparator hqs' hu hw hnot hnot' hrest
      rw [hfirst, hothers]
      exact ⟨rfl, hend⟩

/-- The keyword tells whether there is a condition on groups. -/
theorem before_having_injective (htext : Function.Injective (text : κ → String)) :
    (having : Option (Predicate κ)) → (∀ s ∈ havingTexts having, IsName s) →
    ∀ {having' : Option (Predicate κ)}, (∀ s ∈ havingTexts having', IsName s) →
    ∀ {u w : Unread},
      (havingFragment having).before (u.withText ")")
          = (havingFragment having').before (w.withText ")") →
        having = having' ∧ u = w
  | none, _, having', _, u, w, h => by
    rw [before_having_none] at h
    cases having' with
    | none =>
      rw [before_having_none] at h
      exact ⟨rfl, Unread.withText_inj.1 h⟩
    | some q =>
      rw [before_having_some] at h
      exact absurd h (Unread.withText_ne (by decide) (by decide))
  | some p, hp, having', hq, u, w, h => by
    rw [before_having_some] at h
    cases having' with
    | none =>
      rw [before_having_none] at h
      exact absurd h (Unread.withText_ne (by decide) (by decide))
    | some q =>
      rw [before_having_some, Unread.withText_inj] at h
      obtain ⟨hcondition, hend⟩ := before_injective htext p hp hq
        (Unread.atEnd_withText (by decide) u) (Unread.atEnd_withText (by decide) w) h
      rw [hcondition]
      exact ⟨rfl, Unread.withText_inj.1 hend⟩

end

end Predicate

/-! ## Reading back -/

/-- Two lists of predicates over named columns and tables that read as the same SQL with the same
values are the same list. -/
theorem conjunction_reads_back {ps qs : List (Predicate String)}
    (hps : ∀ p ∈ ps, ∀ s ∈ p.texts, IsName s) (hqs : ∀ q ∈ qs, ∀ s ∈ q.texts, IsName s)
    (hsql : (Predicate.conjunction ps).sql = (Predicate.conjunction qs).sql)
    (hvalues : (Predicate.conjunction ps).values = (Predicate.conjunction qs).values) :
    ps = qs := by
  have hnames : ∀ {rs : List (Predicate String)}, (∀ r ∈ rs, ∀ s ∈ r.texts, IsName s) →
      ∀ s ∈ Predicate.textsOfAll rs, IsName s := by
    intro rs hrs
    rw [Predicate.textsOfAll_eq_flatMap, List.forall_mem_flatMap]
    exact hrs
  -- nothing is left to be read behind either list
  have hend : Unread.AtEnd ⟨[], []⟩ := fun c hc => by cases hc
  have hnot : ¬Unread.StartsWith ⟨[], []⟩ " AND " := by
    rw [Unread.StartsWith, List.prefix_nil]
    decide
  have hbefore : (Predicate.conjunction ps).before ⟨[], []⟩
      = (Predicate.conjunction qs).before ⟨[], []⟩ := by
    rw [Fragment.before_mk_nil, Fragment.before_mk_nil, hsql, hvalues]
  rw [Predicate.conjunction, Predicate.conjunction, ← Predicate.fragments_eq_map,
    ← Predicate.fragments_eq_map] at hbefore
  exact (Predicate.before_joined_injective Function.injective_id ps (hnames hps)
    (by decide : endsPredicate " AND ") (hnames hqs) hend hend hnot hnot hbefore).1

/-- A search over two columns, before a subquery with alternatives of no terms whose group has one
of no values. -/
def Predicate.searchSample : List (Predicate String) :=
  [ .anyOf (["e.name", "e.title"].map (.like · (.text "%a%"))),
    .rowExists ⟨"entry_places", "ep"⟩ "ep.entry_id" "e.entry_id" [.anyOf [], .fixed "ep.rank" (-1)]
      (some "ep.entry_id") (some (.isIn "ep.place_id" [])) ]

/-- The search stands for alternatives that can be spelled out. -/
theorem conjunction_reads_back_search :
    (∀ p ∈ Predicate.searchSample, ∀ s ∈ p.texts, IsName s)
      ∧ (Predicate.conjunction Predicate.searchSample).sql
        = "(e.name LIKE ? OR e.title LIKE ?) AND EXISTS (SELECT 1 FROM entry_places ep WHERE "
          ++ "ep.entry_id = e.entry_id AND () AND ep.rank = -1 GROUP BY ep.entry_id "
          ++ "HAVING ep.place_id IN ())"
      ∧ (Predicate.conjunction Predicate.searchSample).values = [.text "%a%", .text "%a%"]
      ∧ Predicate.searchSample
        = [ .anyOf [.like "e.name" (.text "%a%"), .like "e.title" (.text "%a%")],
            .rowExists ⟨"entry_places", "ep"⟩ "ep.entry_id" "e.entry_id"
              [.anyOf [], .fixed "ep.rank" (-1)] (some "ep.entry_id")
              (some (.isIn "ep.place_id" [])) ] := by
  have hnames : ∀ p ∈ Predicate.searchSample, ∀ s ∈ p.texts, IsName s := by decide +kernel
  refine ⟨hnames, by decide +kernel, rfl, ?_⟩
  exact conjunction_reads_back hnames (by decide +kernel) (by decide +kernel) rfl

end Compendium
