import Mathlib.Data.List.Nodup
import Compendium.Proofs.Listing.Accepted

/-!
# Compendium — faults of a declaration

Checking a declaration, said without the checking. A list is declared item by item, in any order
(`Declaration.ofItems`), and `Declaration.faults` is everything that is wrong with it: the faults of
the filters one by one, then those of the sort keys, the default sort, the summaries and the default
limit. A declaration without faults is consistent, and becomes the listing that holds what was
declared; any other is refused with its first fault.

* `Declaration.build_eq` says what checking comes to, as one equation.
* `Declaration.faults_eq_nil_iff` says what a declaration without faults is like.
* `consistent_declarations_are_built` puts them together.
-/

namespace Compendium

/-! ## Declaring item by item -/

/-- One thing that is declared of a list. -/
inductive Declaration.Item where
  | filter (key : String) (filter : Filter)
  | sortKey (key : SortKey)
  | summary (summary : Summary)
  | defaultLimit (limit : UInt64)

namespace Declaration.Item

def filter? : Item → Option (String × Filter)
  | filter key f => some (key, f)
  | _ => none

def sortKey? : Item → Option SortKey
  | sortKey key => some key
  | _ => none

def summary? : Item → Option Summary
  | summary s => some s
  | _ => none

def defaultLimit? : Item → Option UInt64
  | defaultLimit limit => some limit
  | _ => none

end Declaration.Item

namespace Declaration

/-- What is declared comes after what has been; a new limit takes the place of the old one. -/
def declare (d : Declaration) : Item → Declaration
  | .filter key filter => { d with filters := d.filters ++ [(key, filter)] }
  | .sortKey key => { d with sortKeys := d.sortKeys ++ [key] }
  | .summary summary => { d with summaries := d.summaries ++ [summary] }
  | .defaultLimit limit => { d with defaultLimit := limit }

def ofItems (resource : String) (entity : Entity) (items : List Item) : Declaration :=
  items.foldl declare (ofEntity resource entity)

/-- What is declared one after the other, kept apart by kind. The induction is on the items, for any
declaration that they are added to. -/
theorem foldl_declare (d : Declaration) (items : List Item) :
    items.foldl declare d =
      { d with
        filters := d.filters ++ items.filterMap Item.filter?
        sortKeys := d.sortKeys ++ items.filterMap Item.sortKey?
        summaries := d.summaries ++ items.filterMap Item.summary?
        defaultLimit := (items.filterMap Item.defaultLimit?).getLastD d.defaultLimit } := by
  induction items generalizing d with
  | nil => simp
  | cons item items ih =>
    rw [List.foldl_cons, ih]
    -- whatever the item is, it goes to the end of what is kept of its kind
    cases item <;>
      simp only [declare, Item.filter?, Item.sortKey?, Item.summary?, Item.defaultLimit?,
        List.filterMap_cons, List.getLastD_cons, List.append_assoc, List.singleton_append]

/-- What is declared is kept apart by kind and in order, and the last limit counts. -/
theorem ofItems_eq (resource : String) (entity : Entity) (items : List Item) :
    ofItems resource entity items =
      { resource, entity
        filters := items.filterMap Item.filter?
        sortKeys := items.filterMap Item.sortKey?
        summaries := items.filterMap Item.summary?
        defaultLimit := (items.filterMap Item.defaultLimit?).getLastD standardLimit } := by
  rw [ofItems, foldl_declare]
  rfl

end Declaration

/-! ## Faults -/

/-- The fault, if what it says is the case. -/
def faultIf (p : Prop) [Decidable p] (e : DeclarationError) : List DeclarationError :=
  if p then [e] else []

theorem faultIf_eq_nil_iff {p : Prop} [Decidable p] {e : DeclarationError} :
    faultIf p e = [] ↔ ¬p := by
  simp [faultIf]

/-- The faults of things that go by keys, in order: what is wrong with each by itself (`own`), and
then that its key has been declared before. -/
def faultsOf {β : Type} (resource : String) (key : β → String) (own : β → List DeclarationError) :
    List String → List β → List DeclarationError
  | _, [] => []
  | before, b :: bs =>
    own b ++ faultIf (key b ∈ before) (.duplicateKey resource (key b))
      ++ faultsOf resource key own (key b :: before) bs

/-- The column of the entity that a filter refers to. -/
def Filter.entityColumn? (f : Filter) : Option EntityColumn :=
  match f.target with
  | .column column _ => some column
  | .substring column => some column
  | .rule column _ => some column
  | .junction _ => none

namespace Declaration

/-- What is wrong with a filter by itself. -/
def filterFaults (d : Declaration) (declared : String × Filter) : List DeclarationError :=
  let (key, f) := declared
  faultIf (isReserved key) (.reservedKey d.resource key)
    ++ faultIf ((f.takesMany ∨ f.takesLogic) ∧ ¬f.canTakeMany) (.missingJoin d.resource key)
    ++ faultIf (d.entity.alternate = none ∧ (f.switchesBase ∨ f.needsAlternate))
      (.missingAlternateTable d.resource key)

def sortKeyFaults (d : Declaration) (key : SortKey) : List DeclarationError :=
  faultIf (d.entity.alternate = none ∧ key.needsAlternate)
    (.missingAlternateTable d.resource key.name)

def faultsOfFilters (d : Declaration) : List DeclarationError :=
  faultsOf d.resource Prod.fst d.filterFaults [] d.filters

def faultsOfSortKeys (d : Declaration) : List DeclarationError :=
  faultsOf d.resource SortKey.name d.sortKeyFaults [] d.sortKeys

/-- What is wrong apart from the filters and the sort keys. -/
def faultsOfSettings (d : Declaration) : List DeclarationError :=
  faultIf (d.entity.defaultSort ∉ d.sortKeys.map SortKey.name)
      (.unknownDefaultSort d.resource d.entity.defaultSort)
    ++ faultsOf d.resource Summary.label (fun _ => []) [] d.summaries
    ++ faultIf (d.defaultLimit = 0) (.invalidDefaultLimit d.resource)

/-- Everything that is wrong with a declaration, in the order of checking. -/
def faults (d : Declaration) : List DeclarationError :=
  d.faultsOfFilters ++ d.faultsOfSortKeys ++ d.faultsOfSettings

end Declaration

/-! ## Checking finds the first fault -/

/-- The value, or the first fault if there are any. -/
def unlessFaults {α : Type} : List DeclarationError → α → Except DeclarationError α
  | [], a => .ok a
  | e :: _, _ => .error e

variable {α β : Type}

@[simp] theorem unlessFaults_nil (a : α) : unlessFaults [] a = .ok a := rfl

@[simp] theorem unlessFaults_cons (e : DeclarationError) (es : List DeclarationError) (a : α) :
    unlessFaults (e :: es) a = .error e := rfl

/-- There is a value exactly where there is no fault. -/
theorem unlessFaults_eq_ok_iff {es : List DeclarationError} {a b : α} :
    unlessFaults es a = .ok b ↔ es = [] ∧ a = b := by
  cases es <;> simp

/-- Of several faults the first is the error. -/
theorem unlessFaults_eq_error_iff {es : List DeclarationError} {a : α} {e : DeclarationError} :
    unlessFaults es a = .error e ↔ es.head? = some e := by
  cases es <;> simp

theorem OrderedMap.mem_keys_insert {m : OrderedMap α} {k k' : String} {v : α} :
    k' ∈ (m.insert k v).keys ↔ k' ∈ m.keys ∨ k' = k := by
  rw [keys_insert]
  split
  · rename_i hmem
    constructor
    · exact Or.inl
    · -- the key is there already, so that nothing is new
      rintro (h | rfl)
      · exact h
      · exact hmem
  · simp

/-- The keys of a map that is filled are those that it had and those of the items. -/
theorem OrderedMap.mem_keys_foldl_insert {key : β → String} {value : β → α} {bs : List β}
    {m : OrderedMap α} {k : String} :
    k ∈ (bs.foldl (fun m b => m.insert (key b) (value b)) m).keys ↔
      k ∈ m.keys ∨ k ∈ bs.map key := by
  induction bs generalizing m with
  | nil => simp
  | cons b bs ih =>
    rw [List.foldl_cons, ih, mem_keys_insert, List.map_cons, List.mem_cons, or_assoc]

/-- Which keys have come before is all that is asked of them. -/
theorem faultsOf_congr {resource : String} {key : β → String} {own : β → List DeclarationError}
    {before before' : List String} (h : ∀ k, k ∈ before ↔ k ∈ before') (bs : List β) :
    faultsOf resource key own before bs = faultsOf resource key own before' bs := by
  induction bs generalizing before before' with
  | nil => rfl
  | cons b bs ih =>
    have hnext : ∀ k, k ∈ key b :: before ↔ k ∈ key b :: before' := fun k => by
      rw [List.mem_cons, List.mem_cons, h]
    simp only [faultsOf, h, ih hnext]

/-- A map that is filled under checks is filled unless something is at fault. -/
theorem foldlM_eq_unlessFaults {resource : String} {key : β → String} {value : β → α}
    {own : β → List DeclarationError}
    {add : OrderedMap α → β → Except DeclarationError (OrderedMap α)}
    (hadd : ∀ m b, add m b
      = unlessFaults (own b ++ faultIf (key b ∈ m.keys) (.duplicateKey resource (key b)))
        (m.insert (key b) (value b))) (bs : List β) (m : OrderedMap α) :
    bs.foldlM add m = unlessFaults (faultsOf resource key own m.keys bs)
      (bs.foldl (fun m b => m.insert (key b) (value b)) m) := by
  induction bs generalizing m with
  | nil => rfl
  | cons b bs ih =>
    rw [List.foldlM_cons, hadd, List.foldl_cons, faultsOf]
    simp only [ih]
    -- after the first item its key is one of those that have come before
    have hkeys : faultsOf resource key own (m.insert (key b) (value b)).keys bs
        = faultsOf resource key own (key b :: m.keys) bs := by
      refine faultsOf_congr (fun k => ?_) bs
      rw [OrderedMap.mem_keys_insert, List.mem_cons, or_comm]
    rw [← hkeys]
    -- the first item is at fault, or the rest is as the induction says
    rcases own b ++ faultIf (key b ∈ m.keys) (.duplicateKey resource (key b)) with _ | ⟨e, es⟩
    · rfl
    · rfl

/-! ### One item -/

section

variable {p : Bool} {q : Prop} [Decidable q] (h : p = true ↔ q)

include h

/-- A check that is made before others puts its fault before theirs. -/
theorem ite_error_eq {e : DeclarationError} {es : List DeclarationError} {a : α}
    {x : Except DeclarationError α} (hx : x = unlessFaults es a) :
    (if p then .error e else x) = unlessFaults (faultIf q e ++ es) a := by
  -- either the check stops here, and its fault is the first, or what follows decides
  by_cases hq : q
  · simp [faultIf, hq, h.2 hq]
  · simp [faultIf, hq, mt h.1 hq, hx]

theorem ite_error_ok_eq {e : DeclarationError} {a : α} :
    (if p then .error e else .ok a) = unlessFaults (faultIf q e) a := by
  rw [← List.append_nil (faultIf q e)]
  exact ite_error_eq h rfl

end

namespace Declaration

variable (d : Declaration)

/-- The four checks of a filter are its own three faults and the repeated key, in this order. -/
theorem addFilter_eq (filters : OrderedMap Filter) (declared : String × Filter) :
    d.addFilter filters declared
      = unlessFaults (d.filterFaults declared
          ++ faultIf (declared.1 ∈ filters.keys) (.duplicateKey d.resource declared.1))
        (filters.insert declared.1 declared.2) := by
  obtain ⟨key, f⟩ := declared
  simp only [filterFaults, List.append_assoc]
  refine ite_error_eq Iff.rfl (ite_error_eq ?_ (ite_error_eq ?_ (ite_error_ok_eq ?_)))
  · simp
  · simp [hasAlternate]
  · exact filters.get?_isSome_iff key

/-- A sort key is checked for the table that it needs, and then for its name. -/
theorem addSortKey_eq (keys : OrderedMap SortKey) (key : SortKey) :
    d.addSortKey keys key
      = unlessFaults (d.sortKeyFaults key
          ++ faultIf (key.name ∈ keys.keys) (.duplicateKey d.resource key.name))
        (keys.insert key.name key) := by
  refine ite_error_eq ?_ (ite_error_ok_eq ?_)
  · simp [hasAlternate]
  · exact keys.get?_isSome_iff key.name

/-! ### The whole declaration -/

/-- The listing that holds what was declared. -/
def listing : Listing where
  resource := d.resource
  entity := d.entity
  filters := .ofList d.filters
  sortKeys := .ofList (d.sortKeys.map fun key => (key.name, key))
  summaries := d.summaries
  defaultLimit := d.defaultLimit

/-- All filters together are entered, or the first of their faults is the error. -/
theorem foldlM_addFilter :
    d.filters.foldlM d.addFilter .empty = unlessFaults d.faultsOfFilters d.listing.filters :=
  foldlM_eq_unlessFaults d.addFilter_eq d.filters .empty

theorem sortKeys_listing :
    d.listing.sortKeys = d.sortKeys.foldl (fun m key => m.insert key.name key) .empty := by
  show OrderedMap.ofList _ = _
  rw [OrderedMap.ofList, List.foldl_map]

theorem foldlM_addSortKey :
    d.sortKeys.foldlM d.addSortKey .empty = unlessFaults d.faultsOfSortKeys d.listing.sortKeys := by
  rw [sortKeys_listing]
  exact foldlM_eq_unlessFaults d.addSortKey_eq d.sortKeys .empty

/-- The map of the sort keys has the names that were declared. -/
theorem contains_sortKeys_listing (key : String) :
    d.listing.sortKeys.contains key = true ↔ key ∈ d.sortKeys.map SortKey.name := by
  rw [OrderedMap.contains, OrderedMap.get?_isSome_iff, sortKeys_listing,
    OrderedMap.mem_keys_foldl_insert]
  simp

/-- A text that stands in a list again is a label that is declared twice. -/
theorem head?_faultsOf_labels (resource : String) (before : List String)
    (summaries : List Summary) :
    (faultsOf resource Summary.label (fun _ => []) before summaries).head?
      = (firstRepeated before (summaries.map Summary.label)).map (.duplicateKey resource) := by
  induction summaries generalizing before with
  | nil => rfl
  | cons summary summaries ih =>
    rw [faultsOf, List.map_cons, firstRepeated, List.nil_append, faultIf]
    split
    · rfl
    · rw [List.nil_append, ih]

/-- What is checked after the maps are filled is the first fault of the settings. -/
theorem settingsError?_listing :
    d.settingsError? d.listing.sortKeys = d.faultsOfSettings.head? := by
  unfold settingsError? faultsOfSettings
  by_cases hsort : d.entity.defaultSort ∈ d.sortKeys.map SortKey.name
  · have hcontains := (d.contains_sortKeys_listing _).2 hsort
    have hlabels := head?_faultsOf_labels d.resource [] d.summaries
    rw [if_neg (by simp [hcontains]), faultIf, if_neg (not_not.2 hsort), List.nil_append,
      List.head?_append, hlabels]
    -- of the labels and the limit the labels come first
    rcases firstRepeated [] (d.summaries.map Summary.label) with _ | label
    · rw [faultIf]
      by_cases hlimit : d.defaultLimit = 0 <;> simp [hlimit]
    · rfl
  · have hcontains : d.listing.sortKeys.contains d.entity.defaultSort = false :=
      Bool.eq_false_iff.2 (mt (d.contains_sortKeys_listing _).1 hsort)
    rw [if_pos (by simp [hcontains]), faultIf, if_pos hsort]
    rfl

/-- Checking a declaration gives the listing that holds it, or the first of its faults. -/
theorem build_eq : d.build = unlessFaults d.faults d.listing := by
  rw [build, foldlM_addFilter, foldlM_addSortKey, faults]
  rcases d.faultsOfFilters with _ | ⟨e, es⟩
  · rcases d.faultsOfSortKeys with _ | ⟨e, es⟩
    · -- the last check is for the settings
      simp only [unlessFaults, bind, Except.bind, List.nil_append]
      rw [settingsError?_listing]
      cases d.faultsOfSettings <;> rfl
    · rfl
  · rfl

/-! ## Consistent declarations -/

/-- What a declaration is like that nothing is wrong with. -/
structure Consistent : Prop where
  /-- No filter has the key of another parameter or one that ends like a companion's. -/
  notReserved : ∀ e ∈ d.filters, e.1 ∉ reservedParams ∧ ∀ owner, e.1 ≠ owner ++ companionSuffix
  /-- Only a column or a junction is matched with several values. -/
  canTakeMany : ∀ e ∈ d.filters, e.2.takesMany ∨ e.2.takesLogic →
    (∃ column fixed, e.2.target = .column column fixed) ∨ ∃ junction, e.2.target = .junction junction
  /-- Without an alternate table nothing refers to it. -/
  filtersOnBase : d.entity.alternate = none → ∀ e ∈ d.filters,
    e.2.switchesBase = false ∧ ∀ column, e.2.entityColumn? = some column → column.side = .base
  sortKeysOnBase : d.entity.alternate = none → ∀ key ∈ d.sortKeys,
    key.base.column.side = .base
      ∧ ∀ source, key.alternate = some source → source.column.side = .base
  filterKeys : (d.filters.map Prod.fst).Nodup
  sortNames : (d.sortKeys.map SortKey.name).Nodup
  labels : (d.summaries.map Summary.label).Nodup
  defaultSort : d.entity.defaultSort ∈ d.sortKeys.map SortKey.name
  defaultLimit : 0 < d.defaultLimit

end Declaration

/-- Things that go by keys are without fault if each is by itself and no key comes twice. -/
theorem faultsOf_eq_nil_iff {resource : String} {key : β → String}
    {own : β → List DeclarationError} {before : List String} {bs : List β} :
    faultsOf resource key own before bs = [] ↔
      (∀ b ∈ bs, own b = []) ∧ (∀ b ∈ bs, key b ∉ before) ∧ (bs.map key).Nodup := by
  induction bs generalizing before with
  | nil => simp [faultsOf]
  | cons b bs ih =>
    have hnext : (∀ c ∈ bs, key c ∉ key b :: before) ↔
        key b ∉ bs.map key ∧ ∀ c ∈ bs, key c ∉ before := by
      simp only [List.mem_cons, not_or, List.mem_map, not_exists, not_and]
      exact forall₂_and
    -- that a later key is new says of it that it is none of the earlier ones, and of the earlier
    -- ones that they do not come back
    rw [faultsOf, List.append_eq_nil_iff, List.append_eq_nil_iff, faultIf_eq_nil_iff, ih, hnext,
      List.forall_mem_cons, List.forall_mem_cons, List.map_cons, List.nodup_cons]
    tauto

/-- A reserved key is one of the parameters of every list, or ends like a companion. -/
theorem isReserved_iff {key : String} :
    isReserved key ↔ key ∈ reservedParams ∨ ∃ owner, key = owner ++ companionSuffix := by
  simp only [isReserved, Bool.or_eq_true, List.contains_iff_mem, Option.isSome_iff_exists,
    companionOf?_eq_some_iff]

theorem Side.ne_alternate_iff {side : Side} : side ≠ .alternate ↔ side = .base := by
  cases side <;> simp

namespace Filter

variable {f : Filter}

/-- Only columns and junctions take several values. -/
theorem canTakeMany_iff :
    f.canTakeMany ↔ (∃ column fixed, f.target = .column column fixed)
      ∨ ∃ junction, f.target = .junction junction := by
  unfold canTakeMany
  rcases f.target with _ | _ | _ | _ <;> simp

/-- A filter that does without the alternate table refers to a column of the base table, or to none.
-/
theorem needsAlternate_eq_false_iff :
    f.needsAlternate = false ↔ ∀ column, f.entityColumn? = some column → column.side = .base := by
  unfold needsAlternate entityColumn?
  rcases f.target with _ | _ | _ | _ <;> simp [Side.ne_alternate_iff]

end Filter

/-- A sort key that does without the alternate table has base columns on both sides. -/
theorem SortKey.needsAlternate_eq_false_iff {key : SortKey} :
    key.needsAlternate = false ↔ key.base.column.side = .base
      ∧ ∀ source, key.alternate = some source → source.column.side = .base := by
  unfold needsAlternate
  rcases key.alternate with _ | source <;> simp [Side.ne_alternate_iff]

namespace Declaration

variable {d : Declaration}

/-- A filter by itself is without fault if its three checks pass. -/
theorem filterFaults_eq_nil_iff {declared : String × Filter} :
    d.filterFaults declared = [] ↔
      (declared.1 ∉ reservedParams ∧ ∀ owner, declared.1 ≠ owner ++ companionSuffix)
        ∧ (declared.2.takesMany ∨ declared.2.takesLogic → declared.2.canTakeMany)
        ∧ (d.entity.alternate = none →
          declared.2.switchesBase = false ∧ declared.2.needsAlternate = false) := by
  rw [filterFaults, List.append_eq_nil_iff, List.append_eq_nil_iff, faultIf_eq_nil_iff,
    faultIf_eq_nil_iff, faultIf_eq_nil_iff, isReserved_iff, not_or, not_exists, not_and, not_not,
    not_and, not_or, Bool.not_eq_true, Bool.not_eq_true, and_assoc]

theorem sortKeyFaults_eq_nil_iff {key : SortKey} :
    d.sortKeyFaults key = [] ↔ (d.entity.alternate = none → key.needsAlternate = false) := by
  rw [sortKeyFaults, faultIf_eq_nil_iff, not_and, Bool.not_eq_true]

/-- All filters are without fault if each of them is and no key comes twice. -/
theorem faultsOfFilters_eq_nil_iff :
    d.faultsOfFilters = [] ↔
      (∀ e ∈ d.filters, d.filterFaults e = []) ∧ (d.filters.map Prod.fst).Nodup := by
  simp [faultsOfFilters, faultsOf_eq_nil_iff]

theorem faultsOfSortKeys_eq_nil_iff :
    d.faultsOfSortKeys = [] ↔
      (∀ key ∈ d.sortKeys, d.sortKeyFaults key = []) ∧ (d.sortKeys.map SortKey.name).Nodup := by
  simp [faultsOfSortKeys, faultsOf_eq_nil_iff]

/-- The settings are without fault if the list has a default order, its summaries have labels of
their own and a page has room. -/
theorem faultsOfSettings_eq_nil_iff :
    d.faultsOfSettings = [] ↔ d.entity.defaultSort ∈ d.sortKeys.map SortKey.name
      ∧ (d.summaries.map Summary.label).Nodup ∧ 0 < d.defaultLimit := by
  rw [faultsOfSettings, List.append_eq_nil_iff, List.append_eq_nil_iff, faultIf_eq_nil_iff,
    faultIf_eq_nil_iff, faultsOf_eq_nil_iff, not_not, UInt64.pos_iff_ne_zero]
  simp [and_assoc]

/-- A declaration has no faults exactly if it is consistent. -/
theorem faults_eq_nil_iff : d.faults = [] ↔ d.Consistent := by
  simp only [faults, List.append_eq_nil_iff, faultsOfFilters_eq_nil_iff,
    faultsOfSortKeys_eq_nil_iff, faultsOfSettings_eq_nil_iff, filterFaults_eq_nil_iff,
    sortKeyFaults_eq_nil_iff]
  constructor
  · rintro ⟨⟨⟨hfilters, hkeys⟩, hsorts, hnames⟩, hdefault, hlabels, hlimit⟩
    exact
      { notReserved := fun e he => (hfilters e he).1
        canTakeMany := fun e he hmany => Filter.canTakeMany_iff.1 ((hfilters e he).2.1 hmany)
        filtersOnBase := fun hnone e he =>
          ⟨((hfilters e he).2.2 hnone).1,
            Filter.needsAlternate_eq_false_iff.1 ((hfilters e he).2.2 hnone).2⟩
        sortKeysOnBase := fun hnone key hkey =>
          SortKey.needsAlternate_eq_false_iff.1 (hsorts key hkey hnone)
        filterKeys := hkeys
        sortNames := hnames
        labels := hlabels
        defaultSort := hdefault
        defaultLimit := hlimit }
  · intro h
    -- each check passes for what the property of its name says
    refine ⟨⟨⟨fun e he => ⟨h.notReserved e he, ?_, ?_⟩, h.filterKeys⟩, fun key hkey hnone => ?_,
      h.sortNames⟩, h.defaultSort, h.labels, h.defaultLimit⟩
    · exact fun hmany => Filter.canTakeMany_iff.2 (h.canTakeMany e he hmany)
    · intro hnone
      obtain ⟨hswitches, hcolumn⟩ := h.filtersOnBase hnone e he
      exact ⟨hswitches, Filter.needsAlternate_eq_false_iff.2 hcolumn⟩
    · exact SortKey.needsAlternate_eq_false_iff.2 (h.sortKeysOnBase hnone key hkey)

end Declaration

/-! ## What is built -/

/-- The listing holds what was declared, in order, and the limit that was declared last. -/
structure Listing.Holds (listing : Listing) (resource : String) (entity : Entity)
    (items : List Declaration.Item) : Prop where
  resource : listing.resource = resource
  entity : listing.entity = entity
  filters : listing.filters.toList = items.filterMap Declaration.Item.filter?
  sortKeys : listing.sortKeys.toList
    = (items.filterMap Declaration.Item.sortKey?).map fun key => (key.name, key)
  summaries : listing.summaries = items.filterMap Declaration.Item.summary?
  defaultLimit : listing.defaultLimit
    = (items.filterMap Declaration.Item.defaultLimit?).getLastD standardLimit

/-- No parameter is a filter's and at the same time one that every list takes or the companion of a
filter. -/
def Listing.KeysApart (listing : Listing) : Prop :=
  ∀ key ∈ listing.filters.keys, key ∉ reservedParams
    ∧ ∀ owner ∈ listing.filters.keys, key ≠ owner ++ companionSuffix

namespace Declaration

theorem toList_filters_listing {d : Declaration} (h : d.Consistent) :
    d.listing.filters.toList = d.filters :=
  OrderedMap.toList_ofList h.filterKeys

theorem toList_sortKeys_listing {d : Declaration} (h : d.Consistent) :
    d.listing.sortKeys.toList = d.sortKeys.map fun key => (key.name, key) := by
  refine OrderedMap.toList_ofList ?_
  rw [List.map_map]
  exact h.sortNames

/-- What a consistent declaration says item by item is what its listing holds. -/
theorem holds_listing {resource : String} {entity : Entity} {items : List Item}
    (h : (ofItems resource entity items).Consistent) :
    (ofItems resource entity items).listing.Holds resource entity items := by
  have hfilters := toList_filters_listing h
  have hsortKeys := toList_sortKeys_listing h
  rw [ofItems_eq] at hfilters hsortKeys ⊢
  exact ⟨rfl, rfl, hfilters, hsortKeys, rfl, rfl⟩

/-- A consistent declaration keeps the keys of its filters apart from all other parameters. -/
theorem keysApart_listing {d : Declaration} (h : d.Consistent) : d.listing.KeysApart := by
  intro key hkey
  rw [OrderedMap.keys, toList_filters_listing h] at hkey
  obtain ⟨e, he, rfl⟩ := List.mem_map.1 hkey
  obtain ⟨hreserved, hcompanion⟩ := h.notReserved e he
  exact ⟨hreserved, fun owner _ => hcompanion owner⟩

end Declaration

/-- Whatever is declared of a list, in any order, a listing is built from it exactly if it is
consistent. The listing holds what was declared, and none of its filters has the key of another
parameter. From any other declaration comes its first fault. -/
theorem consistent_declarations_are_built (resource : String) (entity : Entity)
    (items : List Declaration.Item) :
    let d := Declaration.ofItems resource entity items
    ((∃ listing, d.build = .ok listing) ↔ d.Consistent)
      ∧ (∀ listing, d.build = .ok listing →
        listing.Holds resource entity items ∧ listing.KeysApart)
      ∧ ∀ e, d.build = .error e ↔ d.faults.head? = some e := by
  intro d
  rw [d.build_eq]
  refine ⟨?_, fun listing hlisting => ?_, fun e => unlessFaults_eq_error_iff⟩
  · simp only [unlessFaults_eq_ok_iff, exists_and_left, exists_eq', and_true,
      Declaration.faults_eq_nil_iff]
  · obtain ⟨hfaults, rfl⟩ := unlessFaults_eq_ok_iff.1 hlisting
    have hconsistent := Declaration.faults_eq_nil_iff.1 hfaults
    exact ⟨Declaration.holds_listing hconsistent, Declaration.keysApart_listing hconsistent⟩

namespace Races

/-- The races of a smaller world: a sort key before the filters and two limits. -/
def fewItems : List Declaration.Item :=
  [ .sortKey (.ofColumn "race_name" (.onBase "race_name")),
    .filter "race_name" (.onSubstring (.onBase "race_name")), .defaultLimit 0,
    .filter "edition_id" editions, .defaultLimit 10 ]

/-- Two of the filters have one key, one sort key refers to a table that is not there, and a page
has no room for a race. -/
def faultyItems : List Declaration.Item :=
  [ .defaultLimit 0, .sortKey (.ofColumn "race_name" (.onAlternate "race_name")),
    .filter "race_name" (.onSubstring (.onBase "race_name")), .filter "race_name" editions,
    .filter "page" favoredClass ]

end Races

/-- Of four faults the one that is found is that of the earliest filter, though the filters come
last. -/
theorem consistent_declarations_are_built_races :
    (∃ listing, (Declaration.ofItems "races" Races.entity Races.fewItems).build = .ok listing
        ∧ listing.Holds "races" Races.entity Races.fewItems ∧ listing.KeysApart
        ∧ listing.defaultLimit = 10)
      ∧ (Declaration.ofItems "races" Races.entity Races.faultyItems).build
        = .error (.duplicateKey "races" "race_name") := by
  obtain ⟨hbuilt, hlisting, -⟩ :=
    consistent_declarations_are_built "races" Races.entity Races.fewItems
  obtain ⟨-, -, herror⟩ :=
    consistent_declarations_are_built "races" Races.entity Races.faultyItems
  have hconsistent : (Declaration.ofItems "races" Races.entity Races.fewItems).Consistent :=
    Declaration.faults_eq_nil_iff.1 (by decide +kernel)
  obtain ⟨listing, hbuild⟩ := hbuilt.2 hconsistent
  obtain ⟨hholds, hapart⟩ := hlisting listing hbuild
  -- the second of the two limits counts, and the earliest filter's fault is found
  refine ⟨⟨listing, hbuild, hholds, hapart, ?_⟩, (herror _).2 (by decide +kernel)⟩
  rw [hholds.defaultLimit]
  rfl

end Compendium
