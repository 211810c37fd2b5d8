import Compendium.Proofs.Listing.Accepted
import Compendium.Statement.PageQuery

/-!
# Compendium — the shape of a statement

What a client sends must never become SQL text. The text of a page query is a function of the
request's *shape*: which filters have a value and how many scalars each value has, the quantifiers
that count, the keys searched, the order and the driving table. The scalars themselves, the pattern,
the page and the limit only ever fill holes.

* `Fragment.skeleton` is a fragment with its values taken out, and the text depends on no more
  (`Fragment.sql_eq_of_skeleton_eq`).
* `Clauses.skeletons` carries that over to a selection, one lemma for each kind of filter.
* `ListRequest.SameShape` says when two requests have one shape, and
  `pageQuery_sql_eq_of_sameShape` that they then come to one text.
-/

namespace Compendium

/-! ## Skeletons of fragments

The literal texts of a fragment in order, with an empty place for each hole. -/

/-- The text of a literal piece; a hole has none of its own. -/
def Piece.literal? : Piece → Option String
  | text sql => some sql
  | hole _ => none

namespace Fragment

def skeleton (f : Fragment) : List (Option String) := f.map Piece.literal?

/-- The text is read off the skeleton: a question mark stands in every empty place. -/
theorem sql_eq_join_skeleton (f : Fragment) :
    f.sql = String.join (f.skeleton.map (·.getD "?")) := by
  have hpiece : ∀ p : Piece, p.sql = p.literal?.getD "?" := by
    intro p
    cases p <;> rfl
  simp only [sql, skeleton, List.map_map]
  congr 1
  exact List.map_congr_left fun p _ => hpiece p

/-- Fragments with one skeleton have one text. -/
theorem sql_eq_of_skeleton_eq {f g : Fragment} (h : f.skeleton = g.skeleton) : f.sql = g.sql := by
  rw [sql_eq_join_skeleton, sql_eq_join_skeleton, h]

@[simp] theorem skeleton_nil : skeleton [] = [] := rfl

@[simp] theorem skeleton_text (s : String) (f : Fragment) :
    skeleton (.text s :: f) = some s :: skeleton f := rfl

/-- A hole loses its value. -/
@[simp] theorem skeleton_hole (v : Scalar) (f : Fragment) :
    skeleton (.hole v :: f) = none :: skeleton f := rfl

@[simp] theorem skeleton_append (f g : Fragment) :
    skeleton (f ++ g) = skeleton f ++ skeleton g :=
  List.map_append

/-- Joining commutes with taking the values out. -/
theorem skeleton_joined (separator : String) (fs : List Fragment) :
    skeleton (joined separator fs) = [some separator].intercalate (fs.map skeleton) := by
  induction fs with
  | nil => simp [joined]
  | cons f fs ih =>
    cases fs with
    | nil => simp [joined]
    | cons g gs =>
      -- a separator stands only where something follows
      show skeleton (f ++ .text separator :: joined separator (g :: gs)) = _
      rw [skeleton_append, skeleton_text, ih]
      simp

/-- A keyword appears with a body or not at all, and the skeleton shows which. -/
theorem skeleton_clause (keyword : String) (f : Fragment) :
    skeleton (Select.clause keyword f)
      = if f.skeleton = [] then [] else some keyword :: f.skeleton := by
  -- a fragment without pieces has no skeleton either
  cases f with
  | nil => rfl
  | cons p ps => simp [Select.clause, skeleton, Piece.literal?]

end Fragment

/-! ## Skeletons of predicates -/

namespace Predicate

variable {κ : Type} [ColumnText κ]

def skeletons (ps : List (Predicate κ)) : List (List (Option String)) :=
  ps.map fun p => p.fragment.skeleton

@[simp] theorem skeletons_cons (p : Predicate κ) (ps : List (Predicate κ)) :
    skeletons (p :: ps) = p.fragment.skeleton :: skeletons ps := rfl

@[simp] theorem skeletons_append (ps qs : List (Predicate κ)) :
    skeletons (ps ++ qs) = skeletons ps ++ skeletons qs :=
  List.map_append

/-- A conjunction shows its terms with keywords between them. -/
theorem skeleton_conjunction (ps : List (Predicate κ)) :
    (conjunction ps).skeleton = [some " AND "].intercalate (skeletons ps) := by
  rw [conjunction, Fragment.skeleton_joined, List.map_map]
  rfl

/-- A list of holes shows how long it is and nothing more. -/
theorem skeleton_holes (values : List Scalar) :
    (holes values).skeleton = [some ", "].intercalate (List.replicate values.length [none]) := by
  have hmap : (values.map fun v => [Piece.hole v]).map Fragment.skeleton
      = List.replicate values.length [none] := by
    rw [List.map_map, ← List.map_const']
    rfl
  rw [holes, Fragment.skeleton_joined, hmap]

theorem skeleton_andEach (fs : List Fragment) :
    (andEach fs).skeleton = (fs.map Fragment.skeleton).flatMap (some " AND " :: ·) := by
  induction fs with
  | nil => rfl
  | cons f fs ih =>
    rw [andEach, List.flatMap_cons, Fragment.skeleton_append, Fragment.skeleton_text,
      List.map_cons, List.flatMap_cons, ← ih]
    rfl

theorem map_skeleton_fragments (ps : List (Predicate κ)) :
    (fragments ps).map Fragment.skeleton = skeletons ps := by
  rw [fragments_eq_map, List.map_map]
  rfl

end Predicate

/-- The skeletons of the row conditions and of the group conditions. -/
def Clauses.skeletons (c : Clauses) : List (List (Option String)) × List (List (Option String)) :=
  (Predicate.skeletons c.conditions, Predicate.skeletons c.having)

namespace Clauses

@[simp] theorem skeletons_append (a b : Clauses) :
    (a.append b).skeletons
      = (a.skeletons.1 ++ b.skeletons.1, a.skeletons.2 ++ b.skeletons.2) := by
  simp [skeletons, append]

@[simp] theorem skeletons_ofConditions (ps : List (Predicate Column)) :
    (ofConditions ps).skeletons = (Predicate.skeletons ps, []) := rfl

/-- Blocks put in a row look like what the single blocks look like. -/
theorem skeletons_foldr_append (blocks : List Clauses) (last : Clauses) :
    (blocks.foldr append last).skeletons
      = ((blocks.map skeletons).flatMap Prod.fst ++ last.skeletons.1,
          (blocks.map skeletons).flatMap Prod.snd ++ last.skeletons.2) := by
  induction blocks with
  | nil => rfl
  | cons b bs ih => simp [ih]

end Clauses

/-! ## One filter

Each kind of filter compiles two values to one skeleton if they have equally many scalars. -/

/-- One scalar reads as an equation and any other number of them as a list. -/
theorem skeleton_matchValues (column : Column) : {vs ws : List Scalar} → vs.length = ws.length →
    (matchValues column vs).fragment.skeleton = (matchValues column ws).fragment.skeleton
  | [], [], _ => rfl
  | [_], [_], _ => rfl
  | _ :: _ :: _, _ :: _ :: _, h => by
    simp only [matchValues, Predicate.fragment, Fragment.skeleton_text, List.cons_append,
      Fragment.skeleton_append, Predicate.skeleton_holes, h]

/-- Whether all values are needed depends on how many there are. -/
theorem needsAll_congr (quantifier : Quantifier) {vs ws : List Scalar}
    (h : vs.length = ws.length) : needsAll quantifier vs = needsAll quantifier ws := by
  simp only [needsAll, h]

/-- A count asks for a number of values and not for the values. -/
theorem hasAll_congr (column : Column) {vs ws : List Scalar} (h : vs.length = ws.length) :
    hasAll column vs = hasAll column ws := by
  simp only [hasAll, h]

namespace Listing

/-- A column's filter compiles by the number of its values, and its count with it. -/
theorem skeletons_columnClauses (listing : Listing) (column : EntityColumn)
    (fixed : List FixedCondition) (quantifier : Quantifier) {vs ws : List Scalar}
    (h : vs.length = ws.length) :
    (listing.columnClauses column fixed quantifier vs).skeletons
      = (listing.columnClauses column fixed quantifier ws).skeletons := by
  simp only [columnClauses, Clauses.skeletons, Predicate.skeletons_cons,
    skeleton_matchValues _ h, needsAll_congr _ h, hasAll_congr _ h]

theorem skeleton_junctionPredicate (listing : Listing) (j : Junction) (quantifier : Quantifier)
    {vs ws : List Scalar} (h : vs.length = ws.length) :
    (listing.junctionPredicate j quantifier vs).fragment.skeleton
      = (listing.junctionPredicate j quantifier ws).fragment.skeleton := by
  have hcond : Predicate.skeletons (matchValues j.value vs :: fixedPredicates j.table.label j.fixed)
      = Predicate.skeletons (matchValues j.value ws :: fixedPredicates j.table.label j.fixed) := by
    rw [Predicate.skeletons_cons, Predicate.skeletons_cons, skeleton_matchValues _ h]
  simp only [junctionPredicate, Predicate.fragment, Fragment.skeleton_text, List.cons_append,
    Fragment.skeleton_append, Predicate.skeleton_andEach, Predicate.map_skeleton_fragments, hcond,
    needsAll_congr _ h, hasAll_congr _ h]

/-- A pattern fills one hole, whatever it is. -/
theorem skeletons_substringPredicates (listing : Listing) (column : EntityColumn) :
    {vs ws : List Scalar} → vs.length = ws.length →
    Predicate.skeletons (listing.substringPredicates column vs)
      = Predicate.skeletons (listing.substringPredicates column ws)
  | [], [], _ => rfl
  | _ :: _, _ :: _, _ => rfl

end Listing

/-- The value is the single integer that stands for two editions. -/
def FilterValue.isEdition3E (v : FilterValue) : Bool := v.toList = [.int Spells.edition3E]

namespace Spells

/-- The rule tells 3E from all other values and looks at nothing else. -/
theorem skeletons_editionRule (column : Column) {v w : FilterValue}
    (h : v.toList.length = w.toList.length) (he : v.isEdition3E = w.isEdition3E) :
    Predicate.skeletons (editionRule column v) = Predicate.skeletons (editionRule column w) := by
  simp only [FilterValue.isEdition3E, decide_eq_decide] at he
  simp only [editionRule]
  generalize v.toList = vs at h he
  generalize w.toList = ws at h he
  match vs, ws, h with
  | [], [], _ => rfl
  | [a], [b], _ =>
    -- whether the one scalar is the id of 3E decides between a list and an equation
    simp only [List.cons.injEq, and_true] at he
    by_cases ha : a = .int edition3E
    · simp only [ha, he.1 ha, if_true]
    · simp only [if_neg ha, if_neg fun hb => ha (he.2 hb)]
      rfl
  | _ :: _ :: _, _ :: _ :: _, _ => rfl

end Spells

/-! ## The selection -/

namespace Selection

/-- The keys of the values in order, and how many scalars each value has. -/
def counts (s : Selection) : List (String × Nat) :=
  s.values.toList.map fun e => (e.1, e.2.toList.length)

/-- Two selections that differ in scalars and in the pattern alone. A quantifier counts only for a
filter that takes logic, and a rule may tell the single integer 4 from other values. -/
structure SameShape (listing : Listing) (s t : Selection) : Prop where
  counts : s.counts = t.counts
  quantifier : ∀ key filter, listing.filters.get? key = some filter → filter.takesLogic →
    s.quantifier key = t.quantifier key
  searchKeys : s.search.map (·.keys) = t.search.map (·.keys)
  edition : ∀ key filter v w, listing.filters.get? key = some filter → filter.hasRule →
    s.values.get? key = some v → t.values.get? key = some w → v.isEdition3E = w.isEdition3E

variable {listing : Listing} {s t : Selection}

/-- Two values under one key come to one skeleton if they have equally many scalars and the edition
rule tells none of them apart. -/
theorem skeletons_clausesAt (hrules : listing.UsesOnlyEditionRule) (h : s.SameShape listing t)
    {key : String} {v w : FilterValue} (hv : (key, v) ∈ s.values.toList)
    (hw : (key, w) ∈ t.values.toList) (hlen : v.toList.length = w.toList.length) :
    (s.clausesAt listing key v).skeletons = (t.clausesAt listing key w).skeletons := by
  have hempty : v.isEmpty = w.isEmpty := by
    rw [FilterValue.isEmpty, FilterValue.isEmpty, Bool.eq_iff_iff,
      List.isEmpty_iff_length_eq_zero, List.isEmpty_iff_length_eq_zero, hlen]
  unfold clausesAt
  rcases hf : listing.filters.get? key with _ | filter
  · rfl
  · simp only [hempty]
    split
    · rfl
    · -- the quantifiers agree where the filter looks at them
      have hquantifier : (if filter.takesLogic then s.quantifier key else .any)
          = (if filter.takesLogic then t.quantifier key else .any) := by
        by_cases hlogic : filter.takesLogic
        · rw [if_pos hlogic, if_pos hlogic, h.quantifier key filter hf hlogic]
        · rw [if_neg hlogic, if_neg hlogic]
      rw [hquantifier]
      unfold Listing.filterClauses
      -- one case for each kind of filter
      rcases htarget : filter.target with ⟨column, fixed⟩ | j | column | ⟨column, rule⟩
      · exact listing.skeletons_columnClauses column fixed _ hlen
      · simp only [Clauses.skeletons_ofConditions, Predicate.skeletons_cons,
          listing.skeleton_junctionPredicate j _ hlen]
      · simp only [Clauses.skeletons_ofConditions, listing.skeletons_substringPredicates column hlen]
      · have hrule : rule = Spells.editionRule := hrules key filter column rule hf htarget
        have hedition : v.isEdition3E = w.isEdition3E :=
          h.edition key filter v w hf (by simp [Filter.hasRule, htarget])
            ((s.values.get?_eq_some_iff key v).2 hv) ((t.values.get?_eq_some_iff key w).2 hw)
        subst hrule
        simp only [Clauses.skeletons_ofConditions, Spells.skeletons_editionRule _ hlen hedition]

theorem skeletons_blocks (hrules : listing.UsesOnlyEditionRule) (h : s.SameShape listing t) :
    (s.blocks listing).map Clauses.skeletons = (t.blocks listing).map Clauses.skeletons := by
  have hcounts := h.counts
  unfold counts at hcounts
  have hlength : s.values.toList.length = t.values.toList.length := by
    simpa using congrArg List.length hcounts
  refine List.ext_getElem (by simpa [blocks] using hlength) fun i hi hi' => ?_
  have his : i < s.values.toList.length := by simpa [blocks] using hi
  have hit : i < t.values.toList.length := by simpa [blocks] using hi'
  -- the i-th entries have one key and equally many scalars
  have hentry : (s.values.toList[i].1, s.values.toList[i].2.toList.length)
      = (t.values.toList[i].1, t.values.toList[i].2.toList.length) := by
    have := congrArg (·[i]?) hcounts
    simpa [his, hit] using this
  rw [Prod.mk.injEq] at hentry
  simp only [blocks, List.getElem_map]
  have hmem : (s.values.toList[i].1, t.values.toList[i].2) ∈ t.values.toList := by
    rw [hentry.1]
    exact List.getElem_mem hit
  rw [← hentry.1]
  exact skeletons_clausesAt hrules h (List.getElem_mem his) hmem hentry.2

/-- The columns of a search depend on its keys only. -/
theorem skeletons_searchClauses (h : s.SameShape listing t) :
    (s.searchClauses listing).skeletons = (t.searchClauses listing).skeletons := by
  have hkeys := h.searchKeys
  unfold searchClauses
  generalize s.search = a at hkeys ⊢
  generalize t.search = b at hkeys ⊢
  -- both selections have a search or neither does
  rcases a with _ | a <;> rcases b with _ | b
  · rfl
  · simp at hkeys
  · simp at hkeys
  · have hab : a.keys = b.keys := by simpa using hkeys
    simp only [hab]
    rcases searchColumns listing b.keys with _ | ⟨column, columns⟩
    · rfl
    · -- one pattern fills all holes of the search, in either request
      have hterms : ∀ (pattern : Scalar) (cs : List Column),
          Predicate.skeletons (cs.map (Predicate.like · pattern))
            = cs.map fun c => [some (c.text ++ " LIKE "), none] := by
        intro pattern cs
        simp only [Predicate.skeletons, List.map_map]
        rfl
      simp only [Clauses.skeletons_ofConditions, Predicate.skeletons_cons, Predicate.fragment,
        Fragment.skeleton_text, List.cons_append, Fragment.skeleton_append,
        Fragment.skeleton_joined, Predicate.map_skeleton_fragments, hterms]

/-- Selections of one shape compile to one skeleton. -/
theorem skeletons_clauses (hrules : listing.UsesOnlyEditionRule) (h : s.SameShape listing t) :
    (s.clauses listing).skeletons = (t.clauses listing).skeletons := by
  unfold clauses
  rw [Clauses.skeletons_foldr_append, Clauses.skeletons_foldr_append, skeletons_blocks hrules h,
    skeletons_searchClauses h]

end Selection

/-! ## The statement -/

/-- A statement's skeleton comes from its head, the skeletons of its conditions and its order; the
limit and the offset are holes. -/
theorem Select.skeleton_fragment (s : Select) (backend : Backend) :
    (s.fragment backend).skeleton
      = some (s.headText backend)
        :: (Select.clause " WHERE " (Predicate.conjunction s.conditions)).skeleton
        ++ some (" GROUP BY " ++ s.groupBy.text)
        :: (Select.clause " HAVING " (Predicate.conjunction s.having)).skeleton
        ++ [some (" ORDER BY " ++ orderText s.orderBy), some " LIMIT ", none, some " OFFSET ",
          none] := by
  simp [fragment]

/-- Two requests of one shape: apart from the selection, the order and the driving table. -/
structure ListRequest.SameShape (listing : Listing) (r r' : ListRequest) : Prop where
  selection : r.selection.SameShape listing r'.selection
  sort : r.sort = r'.sort
  alternate : r.alternate = r'.alternate

theorem Listing.skeleton_select {listing : Listing} (hrules : listing.UsesOnlyEditionRule)
    {r r' : ListRequest} (h : r.SameShape listing r') (backend : Backend) :
    ((listing.select r).fragment backend).skeleton
      = ((listing.select r').fragment backend).skeleton := by
  have hclauses := Selection.skeletons_clauses hrules h.selection
  simp only [Clauses.skeletons, Prod.mk.injEq] at hclauses
  -- what is selected and joined depends on the order and the driving table alone
  have hhead : (listing.select r).headText backend = (listing.select r').headText backend := by
    simp only [Select.headText, select, h.sort, h.alternate]
  have horder : (listing.select r).orderBy = (listing.select r').orderBy := by
    simp only [select, h.sort, h.alternate]
  have hconditions : Predicate.skeletons (listing.select r).conditions
      = Predicate.skeletons (listing.select r').conditions := hclauses.1
  have hhaving : Predicate.skeletons (listing.select r).having
      = Predicate.skeletons (listing.select r').having := hclauses.2
  rw [Select.skeleton_fragment, Select.skeleton_fragment, hhead, horder]
  simp only [Fragment.skeleton_clause, Predicate.skeleton_conjunction, hconditions, hhaving]
  rfl

/-- **No value ever shapes the text.** Two valid requests of one shape come to statements with one
text that are driven by one table, whatever their scalars, patterns, pages and limits; on a backend
without question marks both are refused in the same way. -/
theorem pageQuery_sql_eq_of_sameShape {listing : Listing} (hrules : listing.UsesOnlyEditionRule)
    (backend : Backend) {r r' : ListRequest} (hr : r.isValid) (hr' : r'.isValid)
    (h : r.SameShape listing r') :
    (∃ q q', listing.pageQuery r backend = .ok q ∧ listing.pageQuery r' backend = .ok q'
        ∧ q.sql = q'.sql ∧ q.alternate = q'.alternate)
      ∨ (backend = .postgres
        ∧ listing.pageQuery r backend = .error (.unsupportedBackend backend)
        ∧ listing.pageQuery r' backend = .error (.unsupportedBackend backend)) := by
  -- Postgres has no question marks and is refused
  by_cases hb : backend = .postgres
  · subst hb
    exact .inr ⟨rfl, Listing.pageQuery_postgres hr, Listing.pageQuery_postgres hr'⟩
  · refine .inl ⟨_, _, Listing.pageQuery_of_isValid hr hb, Listing.pageQuery_of_isValid hr' hb,
      ?_, h.alternate⟩
    exact Fragment.sql_eq_of_skeleton_eq (Listing.skeleton_select hrules h backend)

/-- Spells whose name matches a pattern, of one edition, that all of two classes can cast. -/
def Spells.castByBoth (pattern : String) (edition first second : Int64) (page : UInt64) :
    ListRequest where
  selection :=
    { values := .ofList
        [ ("name", .single (.text pattern)),
          ("edition_id", .single (.int edition)),
          ("classId", .list [.int first, .int second]) ]
      quantifiers := .ofList [("classId", .all)]
      search := some ⟨["name"], pattern⟩ }
  pagination := ⟨page, 20⟩
  sort := ⟨"spell_level", .descending⟩
  errors := []
  alternate := true

/-- A hostile pattern, other classes and another page leave the text of a spell query as it is. -/
theorem pageQuery_sql_eq_hostile_pattern :
    ∃ listing, Spells.declaration.build = .ok listing ∧
      ∃ q q', listing.pageQuery (Spells.castByBoth "%fire%" 5 1 2 1) .sqlite = .ok q
        ∧ listing.pageQuery (Spells.castByBoth "%' OR '1'='1%" 2 7 9 4) .sqlite = .ok q'
        ∧ q.sql = q'.sql ∧ q.alternate = q'.alternate := by
  obtain ⟨listing, hbuild⟩ := Resource.spells.exists_build
  have hshape : (Spells.castByBoth "%fire%" 5 1 2 1).SameShape listing
      (Spells.castByBoth "%' OR '1'='1%" 2 7 9 4) := by
    refine ⟨⟨by decide, fun _ _ _ _ => rfl, rfl, ?_⟩, rfl, rfl⟩
    intro key filter v w hf hrule hv hw
    have hv' := OrderedMap.mem_of_get?_ofList hv
    have hw' := OrderedMap.mem_of_get?_ofList hw
    simp only [List.mem_cons, Prod.mk.injEq, List.not_mem_nil, or_false] at hv' hw'
    -- neither request asks for the edition that stands for two
    have hnot : v.isEdition3E = false := by
      rcases hv' with ⟨-, rfl⟩ | ⟨-, rfl⟩ | ⟨-, rfl⟩ <;> rfl
    have hnot' : w.isEdition3E = false := by
      rcases hw' with ⟨-, rfl⟩ | ⟨-, rfl⟩ | ⟨-, rfl⟩ <;> rfl
    rw [hnot, hnot']
  refine ⟨listing, hbuild, ?_⟩
  exact (pageQuery_sql_eq_of_sameShape (Spells.usesOnlyEditionRule hbuild) .sqlite rfl rfl
    hshape).resolve_right (by simp)

end Compendium
