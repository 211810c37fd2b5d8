import Compendium.Proofs.Request.Readings

/-!
# Compendium — what a filter accepts

Interpreting a parameter, said without interpreting it. While a filter's lookup answers, the filter
accepts a parameter that is blank or can be made into values (`Filter.accepts`), and any other
parameter is rejected with the filter's complaints (`Filter.complaints`): one for each item of a list
that the lookup does not know, and a single one otherwise.

* `Filter.scalars_of_answers` gives the scalars of a list.
* `Filter.interpret_of_accepts` and `Filter.interpret_of_not_accepts` are the two outcomes.
-/

namespace Compendium

namespace LookupSet

/-- The lookup of that name is ready. -/
def Answers (lookups : LookupSet) (name : String) : Prop :=
  ∃ lookup, lookups.find? name = some lookup ∧ lookup.status = .ready

/-- The id that a lookup has for a text, if it answers and has one. -/
def idOf (lookups : LookupSet) (name text : String) : Option Int64 :=
  (lookups.resolve name text).toOption.join

/-- A lookup that is ready resolves any text, to an id or to none. -/
theorem resolve_of_answers {lookups : LookupSet} {name : String} (h : lookups.Answers name)
    (text : String) : lookups.resolve name text = .ok (lookups.idOf name text) := by
  obtain ⟨lookup, hfind, hstatus⟩ := h
  have hresolve : ∃ id, lookups.resolve name text = .ok id := by
    unfold resolve
    rw [hfind]
    show ∃ id, lookup.resolve text = .ok id
    unfold Lookup.status at hstatus
    unfold Lookup.resolve Lookup.index
    split at hstatus
    · cases hstatus
    · cases hstatus
    · -- a ready lookup has an index to ask
      rename_i index hstate
      rw [hstate]
      exact ⟨index.resolve text, rfl⟩
  obtain ⟨id, hid⟩ := hresolve
  rw [idOf, hid]
  rfl

end LookupSet

namespace Filter

/-! ## Accepting -/

/-- The parameter asks for nothing: a list without items, or a blank text. -/
def isBlank (f : Filter) (param : ParamValue) : Bool :=
  if f.takesMany then param.items.isEmpty else Text.isBlankText param.head

/-- The parameter can be made into values: of a list every item if there is a lookup, some item if
there is none. -/
def coerces (f : Filter) (lookups : LookupSet) (param : ParamValue) : Bool :=
  if f.takesMany then
    match f.lookup with
    | some name => param.items.all fun item => (lookups.idOf name item).isSome
    | none => param.items.any fun item => (f.valueType.scalar? item).isSome
  else
    f.isSubstring || match f.lookup with
      | some name => (lookups.idOf name param.head).isSome
      | none => (f.valueType.scalar? param.head).isSome

def accepts (f : Filter) (lookups : LookupSet) (param : ParamValue) : Bool :=
  f.isBlank param || f.coerces lookups param

/-- What a filter says of a parameter that it does not accept. -/
def complaints (f : Filter) (lookups : LookupSet) (key : String) (param : ParamValue) :
    List ParamError :=
  match f.takesMany, f.lookup with
  | true, some name =>
    (param.items.filter fun item => (lookups.idOf name item).isNone).map (.lookupNotFound key)
  | true, none => [.noValidValues key param.quoted]
  | false, some _ => [.lookupNotFound key param.head]
  | false, none => [.invalidValue key param.head]

/-- The filter's lookup answers, if it has one. -/
def CanLookUp (f : Filter) (lookups : LookupSet) : Prop :=
  ∀ name, f.lookup = some name → lookups.Answers name

variable {f : Filter} {lookups : LookupSet} {key : String} {param : ParamValue}

/-- A list with a lookup is made into values if every item has an id. -/
theorem coerces_of_lookup {name : String} (hmany : f.takesMany = true)
    (hlookup : f.lookup = some name) :
    f.coerces lookups param = param.items.all fun item => (lookups.idOf name item).isSome := by
  rw [coerces, hmany, hlookup]
  rfl

/-- A list without a lookup is made into values if some item is one. -/
theorem coerces_of_no_lookup (hmany : f.takesMany = true) (hlookup : f.lookup = none) :
    f.coerces lookups param = param.items.any fun item => (f.valueType.scalar? item).isSome := by
  rw [coerces, hmany, hlookup]
  rfl

/-- No item lacks an id if every item has one. -/
theorem filter_isNone_eq_nil_iff {items : List String} {id : String → Option Int64} :
    (items.filter fun item => (id item).isNone) = [] ↔ (items.all fun item => (id item).isSome) := by
  rw [List.filter_eq_nil_iff, List.all_eq_true]
  simp only [Option.isNone_iff_eq_none, Option.isSome_iff_ne_none, ne_eq]

/-- A parameter that is not accepted is complained about. -/
theorem complaints_ne_nil (h : f.accepts lookups param = false) :
    f.complaints lookups key param ≠ [] := by
  rw [accepts, Bool.or_eq_false_iff] at h
  unfold complaints
  split
  · rename_i name hmany hlookup
    -- some item has no id, and it is among those reported
    intro hnil
    rw [List.map_eq_nil_iff, filter_isNone_eq_nil_iff, ← coerces_of_lookup hmany hlookup,
      h.2] at hnil
    cases hnil
  · exact List.cons_ne_nil _ _
  · exact List.cons_ne_nil _ _
  · exact List.cons_ne_nil _ _

/-! ## Lists -/

/-- The items that are missed are those without an id. -/
theorem misses_map (items : List String) (id : String → Option Int64) :
    misses (items.map fun item => (item, id item)) = items.filter fun item => (id item).isNone := by
  rw [misses, List.filterMap_map]
  induction items with
  | nil => rfl
  | cons item items ih =>
    rw [List.filterMap_cons, List.filter_cons, ih]
    rcases hid : id item with _ | n
    · simp [hid]
    · simp [hid]

/-- The scalars of a list's items while the filter's lookup answers. -/
theorem scalars_of_answers (h : f.CanLookUp lookups) (items : List String) :
    f.scalars lookups key items = .ok (match f.lookup with
      | none => .ok (items.filterMap f.valueType.scalar?)
      | some name => idsOrErrors key (items.map fun item => (item, lookups.idOf name item))) := by
  unfold scalars
  rcases hlookup : f.lookup with _ | name
  · rfl
  · -- asking item by item never fails, so all ids are there to be paired with their items
    have hids : items.mapM (lookups.resolve name) = .ok (items.map (lookups.idOf name)) := by
      rw [mapM_eq_ok_iff none]
      have hresolve := LookupSet.resolve_of_answers (h name hlookup)
      refine ⟨fun item _ => ⟨_, hresolve item⟩, List.map_congr_left fun item _ => ?_⟩
      rw [hresolve]
      rfl
    have hzip : items.zip (items.map (lookups.idOf name))
        = items.map fun item => (item, lookups.idOf name item) :=
      List.map_prod_left_eq_zip.symm
    show (items.mapM (lookups.resolve name) >>= fun ids => pure (idsOrErrors key (items.zip ids)))
      = .ok (idsOrErrors key (items.map fun item => (item, lookups.idOf name item)))
    rw [hids, ← hzip]
    rfl

/-- A single miss makes the whole list an error. -/
theorem idsOrErrors_of_misses {found : List (String × Option Int64)} (h : misses found ≠ []) :
    idsOrErrors key found = .error ((misses found).map (.lookupNotFound key)) := by
  unfold idsOrErrors
  split
  · rename_i hnil
    exact absurd hnil h
  · rfl

/-- Without a miss every item gives its id. -/
theorem idsOrErrors_of_no_misses {found : List (String × Option Int64)} (h : misses found = []) :
    idsOrErrors key found = .ok (found.filterMap fun e => e.2.map .int) := by
  unfold idsOrErrors
  rw [h]

/-- A list is made into values unless its scalars are none or in error. -/
theorem interpretMany_of_scalars (hitems : param.items ≠ []) {v : Scalar} {vs : List Scalar}
    (h : f.scalars lookups key param.items = .ok (.ok (v :: vs))) :
    f.interpretMany lookups key param = .ok (.value (.list (v :: vs).eraseDups)) := by
  unfold interpretMany
  rw [if_neg (by simpa using hitems), h]
  rfl

/-- If a list can be made into values, none of its items is in error and some item is a scalar. -/
theorem exists_scalars_of_coerces (hready : f.CanLookUp lookups) (hmany : f.takesMany = true)
    (hitems : param.items ≠ []) (h : f.coerces lookups param = true) :
    ∃ v vs, f.scalars lookups key param.items = .ok (.ok (v :: vs)) := by
  rw [scalars_of_answers hready]
  rcases hlookup : f.lookup with _ | name
  · rw [coerces_of_no_lookup hmany hlookup] at h
    obtain ⟨item, hitem, hsome⟩ := List.any_eq_true.1 h
    obtain ⟨v, hv⟩ := Option.isSome_iff_exists.1 hsome
    have hmem : v ∈ param.items.filterMap f.valueType.scalar? :=
      List.mem_filterMap.2 ⟨item, hitem, hv⟩
    obtain ⟨w, ws, hws⟩ := List.exists_cons_of_ne_nil (List.ne_nil_of_mem hmem)
    exact ⟨w, ws, by rw [← hws]⟩
  · rw [coerces_of_lookup hmany hlookup] at h
    have hmisses : misses (param.items.map fun item => (item, lookups.idOf name item)) = [] := by
      rw [misses_map, filter_isNone_eq_nil_iff]
      exact h
    obtain ⟨item, rest, hcons⟩ := List.exists_cons_of_ne_nil hitems
    -- every item has an id, so the first one gives the first scalar
    have hfirst : (lookups.idOf name item).isSome := by
      rw [hcons, List.all_cons, Bool.and_eq_true] at h
      exact h.1
    obtain ⟨id, hid⟩ := Option.isSome_iff_exists.1 hfirst
    show ∃ v vs, Except.ok (idsOrErrors key _) = _
    rw [idsOrErrors_of_no_misses hmisses, hcons, List.map_cons, List.filterMap_cons, hid]
    exact ⟨_, _, rfl⟩

theorem interpretMany_of_accepts (hready : f.CanLookUp lookups) (hmany : f.takesMany = true)
    (hitems : param.items ≠ []) (h : f.coerces lookups param = true) :
    ∃ v, f.interpretMany lookups key param = .ok (.value v) := by
  obtain ⟨v, vs, hvs⟩ := exists_scalars_of_coerces hready hmany hitems h
  exact ⟨_, interpretMany_of_scalars hitems hvs⟩

/-- A list that is not made into values is rejected with what the filter says of it. -/
theorem interpretMany_of_not_accepts (hready : f.CanLookUp lookups) (hmany : f.takesMany = true)
    (hitems : param.items ≠ []) (h : f.coerces lookups param = false) :
    f.interpretMany lookups key param = .ok (.rejected (f.complaints lookups key param)) := by
  unfold interpretMany
  rw [if_neg (by simpa using hitems), scalars_of_answers hready]
  unfold complaints
  rw [hmany]
  rcases hlookup : f.lookup with _ | name
  · -- without a lookup no item at all is a value
    rw [coerces_of_no_lookup hmany hlookup] at h
    have hnil : param.items.filterMap f.valueType.scalar? = [] := by
      rw [List.filterMap_eq_nil_iff]
      intro item hitem
      have hnone := List.any_eq_false.1 h item hitem
      simpa using hnone
    show Except.map _ (Except.ok (Except.ok (param.items.filterMap f.valueType.scalar?))) = _
    rw [hnil]
    rfl
  · -- with a lookup some item is missed
    have hmisses : misses (param.items.map fun item => (item, lookups.idOf name item)) ≠ [] := by
      intro hnil
      rw [misses_map, filter_isNone_eq_nil_iff, ← coerces_of_lookup hmany hlookup, h] at hnil
      cases hnil
    show Except.map _ (Except.ok (idsOrErrors key
      (param.items.map fun item => (item, lookups.idOf name item)))) = _
    rw [idsOrErrors_of_misses hmisses, misses_map]
    rfl

/-! ## Single values -/

/-- A text that is not blank and can be made into a value is made into one. -/
theorem interpretOne_of_accepts (hready : f.CanLookUp lookups) (hmany : f.takesMany = false)
    (hblank : Text.isBlankText param.head = false) (h : f.coerces lookups param = true) :
    ∃ v, f.interpretOne lookups key param.head = .ok (.value v) := by
  unfold coerces at h
  rw [hmany, if_neg Bool.false_ne_true] at h
  unfold interpretOne
  rw [hblank, if_neg Bool.false_ne_true]
  -- a substring is taken as it is, whatever the type
  rcases hsubstring : f.isSubstring with _ | _
  · rw [hsubstring, Bool.false_or] at h
    rcases hlookup : f.lookup with _ | name
    · rw [hlookup] at h
      obtain ⟨v, hv⟩ := Option.isSome_iff_exists.1 h
      refine ⟨.single v, ?_⟩
      simp only [hv]
      rfl
    · rw [hlookup] at h
      obtain ⟨id, hid⟩ := Option.isSome_iff_exists.1 h
      refine ⟨.single (.int id), ?_⟩
      simp only [LookupSet.resolve_of_answers (hready name hlookup), hid]
      rfl
  · exact ⟨_, rfl⟩

/-- A text that is not blank and cannot be made into a value is rejected. -/
theorem interpretOne_of_not_accepts (hready : f.CanLookUp lookups) (hmany : f.takesMany = false)
    (hblank : Text.isBlankText param.head = false) (h : f.coerces lookups param = false) :
    f.interpretOne lookups key param.head = .ok (.rejected (f.complaints lookups key param)) := by
  unfold coerces at h
  rw [hmany, if_neg Bool.false_ne_true, Bool.or_eq_false_iff] at h
  unfold interpretOne complaints
  rw [hblank, if_neg Bool.false_ne_true, h.1, if_neg Bool.false_ne_true, hmany]
  rcases hlookup : f.lookup with _ | name
  · have hnone : f.valueType.scalar? param.head = none := by
      simpa [hlookup] using h.2
    simp only [hnone]
  · have hnone : lookups.idOf name param.head = none := by
      simpa [hlookup] using h.2
    simp only [LookupSet.resolve_of_answers (hready name hlookup), hnone]
    rfl

/-! ## Any parameter -/

/-- What is accepted is blank or has values. -/
theorem interpret_of_accepts (hready : f.CanLookUp lookups) (h : f.accepts lookups param = true) :
    f.interpret lookups key param = .ok .blank
      ∨ ∃ v, f.interpret lookups key param = .ok (.value v) := by
  unfold interpret
  rcases hblank : f.isBlank param with _ | _
  · have hcoerces : f.coerces lookups param = true := by
      rwa [accepts, hblank, Bool.false_or] at h
    unfold isBlank at hblank
    rcases hmany : f.takesMany with _ | _
    · rw [hmany, if_neg Bool.false_ne_true] at hblank
      rw [if_neg Bool.false_ne_true]
      exact .inr (interpretOne_of_accepts hready hmany hblank hcoerces)
    · rw [hmany, if_pos rfl, List.isEmpty_eq_false_iff] at hblank
      rw [if_pos rfl]
      exact .inr (interpretMany_of_accepts hready hmany hblank hcoerces)
  · unfold isBlank at hblank
    left
    rcases hmany : f.takesMany with _ | _
    · rw [hmany, if_neg Bool.false_ne_true] at hblank
      rw [if_neg Bool.false_ne_true, interpretOne, if_pos hblank]
    · rw [hmany, if_pos rfl] at hblank
      rw [if_pos rfl, interpretMany, if_pos hblank]

/-- Everything else is rejected, with the filter's complaints. -/
theorem interpret_of_not_accepts (hready : f.CanLookUp lookups)
    (h : f.accepts lookups param = false) :
    f.interpret lookups key param = .ok (.rejected (f.complaints lookups key param)) := by
  rw [accepts, Bool.or_eq_false_iff] at h
  obtain ⟨hblank, hcoerces⟩ := h
  unfold isBlank at hblank
  unfold interpret
  rcases hmany : f.takesMany with _ | _
  · rw [hmany, if_neg Bool.false_ne_true] at hblank
    rw [if_neg Bool.false_ne_true]
    exact interpretOne_of_not_accepts hready hmany hblank hcoerces
  · rw [hmany, if_pos rfl, List.isEmpty_eq_false_iff] at hblank
    rw [if_pos rfl]
    exact interpretMany_of_not_accepts hready hmany hblank hcoerces

end Filter

end Compendium
