import Compendium.Entity.Catalog
import Compendium.Proofs.Fallible

/-!
# Compendium — accepted listings

A listing is accepted if some declaration was built into it. What the checks of `Declaration.build`
establish once is what all later reading and compiling relies on.

* `Declaration.builtInto_of_build` says that a listing holds what was declared, in order, and that
  each filter has passed its checks (`Filter.Allowed`).
* `Listing.Accepted.allowed` is the same for a filter found by its key.
-/

namespace Compendium

/-- Some declaration was built into the listing. -/
def Listing.Accepted (listing : Listing) : Prop :=
  ∃ d : Declaration, d.build = .ok listing

/-- What a filter must satisfy to be declared under a key. -/
structure Filter.Allowed (f : Filter) (key : String) (hasAlternate : Bool) : Prop where
  notReserved : isReserved key = false
  canTakeMany : f.takesMany ∨ f.takesLogic → f.canTakeMany
  alternate : f.switchesBase ∨ f.needsAlternate → hasAlternate

namespace Declaration

/-- A filter that is entered has passed the four checks, and its key is new. -/
theorem addFilter_eq_ok {d : Declaration} {filters filters' : OrderedMap Filter}
    {declared : String × Filter} (h : d.addFilter filters declared = .ok filters') :
    declared.2.Allowed declared.1 d.hasAlternate ∧ declared.1 ∉ filters.keys
      ∧ filters' = filters.insert declared.1 declared.2 := by
  obtain ⟨key, filter⟩ := declared
  simp only [addFilter] at h
  split at h
  · cases h
  · split at h
    · cases h
    · split at h
      · cases h
      · split at h
        · cases h
        · -- past the four checks the filter is entered
          rename_i hreserved hmany halternate hnew
          refine ⟨⟨by simpa using hreserved, ?_, ?_⟩, ?_, ?_⟩
          · simpa [Bool.and_eq_true, Bool.or_eq_true] using hmany
          · intro hneeds
            simpa [hneeds] using halternate
          · rw [← OrderedMap.get?_isSome_iff]
            exact hnew
          · cases h; rfl

theorem addSortKey_eq_ok {d : Declaration} {keys keys' : OrderedMap SortKey} {key : SortKey}
    (h : d.addSortKey keys key = .ok keys') :
    key.name ∉ keys.keys ∧ keys' = keys.insert key.name key := by
  unfold addSortKey at h
  split at h
  · cases h
  · split at h
    · cases h
    · rename_i hnew
      refine ⟨?_, ?_⟩
      · rw [← OrderedMap.get?_isSome_iff]
        exact hnew
      · cases h; rfl

/-- What was declared stands in the listing, in order, and has passed its checks. -/
structure BuiltInto (d : Declaration) (listing : Listing) : Prop where
  entity : listing.entity = d.entity
  filters : listing.filters.toList = d.filters
  allowed : ∀ e ∈ d.filters, e.2.Allowed e.1 d.hasAlternate
  sortKeys : listing.sortKeys.toList = d.sortKeys.map fun k => (k.name, k)
  summaries : listing.summaries = d.summaries

/-- What is built holds what was declared. The filters and the sort keys are entered one by one, so
this is `foldlM_insert_eq_ok` for each of the two maps. -/
theorem builtInto_of_build {d : Declaration} {listing : Listing} (h : d.build = .ok listing) :
    d.BuiltInto listing := by
  unfold build at h
  obtain ⟨filters, hfilters, h⟩ := bind_eq_ok_iff.1 h
  obtain ⟨keys, hkeys, h⟩ := bind_eq_ok_iff.1 h
  obtain ⟨hlist, hallowed⟩ := foldlM_insert_eq_ok id (fun e => e.2.Allowed e.1 d.hasAlternate)
    (fun h => addFilter_eq_ok h) hfilters
  obtain ⟨hsort, -⟩ := foldlM_insert_eq_ok (fun k : SortKey => (k.name, k)) (fun _ => True)
    (fun h => ⟨trivial, addSortKey_eq_ok h⟩) hkeys
  -- the settings are checked last and enter nothing
  rw [List.map_id] at hlist
  split at h
  · cases h
  · cases h
    exact ⟨rfl, hlist, hallowed, hsort, rfl⟩

end Declaration

/-- A filter that is found has passed its checks. -/
theorem Listing.Accepted.allowed {listing : Listing} (h : listing.Accepted) {key : String}
    {filter : Filter} (hf : listing.filters.get? key = some filter) :
    filter.Allowed key listing.entity.alternate.isSome := by
  obtain ⟨d, hd⟩ := h
  have hbuilt := Declaration.builtInto_of_build hd
  rw [OrderedMap.get?_eq_some_iff, hbuilt.filters] at hf
  rw [hbuilt.entity]
  exact hbuilt.allowed _ hf

/-- A filter's key is not one of the parameters that every list takes. -/
theorem Listing.Accepted.notMem_reservedParams {listing : Listing} (h : listing.Accepted)
    {key : String} {filter : Filter} (hf : listing.filters.get? key = some filter) :
    key ∉ reservedParams := by
  have hreserved := (h.allowed hf).notReserved
  rw [isReserved, Bool.or_eq_false_iff] at hreserved
  simpa using hreserved.1

/-- The default sort is one of the sort keys, and a page has room for an item. -/
theorem Declaration.settings_of_settingsError? {d : Declaration} {keys : OrderedMap SortKey}
    (h : d.settingsError? keys = none) :
    d.entity.defaultSort ∈ keys.keys ∧ d.defaultLimit ≠ 0 := by
  unfold settingsError? at h
  split at h
  · cases h
  · rename_i hsort
    split at h
    · cases h
    · -- the limit is what is looked at last
      rw [ite_eq_right_iff] at h
      constructor
      · rw [← OrderedMap.get?_isSome_iff]
        simpa [OrderedMap.contains, Option.isSome_iff_ne_none] using hsort
      · exact fun hzero => absurd (h hzero) (Option.some_ne_none _)

/-- What is built has passed the checks of its settings. -/
theorem Declaration.settings_of_build {d : Declaration} {listing : Listing}
    (h : d.build = .ok listing) :
    listing.entity.defaultSort ∈ listing.sortKeys.keys ∧ listing.defaultLimit ≠ 0 := by
  unfold build at h
  obtain ⟨filters, -, h⟩ := bind_eq_ok_iff.1 h
  obtain ⟨keys, -, h⟩ := bind_eq_ok_iff.1 h
  split at h
  · cases h
  · rename_i hsettings
    cases h
    exact settings_of_settingsError? hsettings

/-- A list that nobody sorted has a sort key to go by. -/
theorem Listing.Accepted.defaultSort_mem {listing : Listing} (h : listing.Accepted) :
    listing.entity.defaultSort ∈ listing.sortKeys.keys := by
  obtain ⟨d, hd⟩ := h
  exact (Declaration.settings_of_build hd).1

/-- A page has room for an item unless the request says otherwise. -/
theorem Listing.Accepted.one_le_defaultLimit {listing : Listing} (h : listing.Accepted) :
    1 ≤ listing.defaultLimit := by
  obtain ⟨d, hd⟩ := h
  have hne : listing.defaultLimit.toNat ≠ 0 := fun hnat =>
    (Declaration.settings_of_build hd).2 (UInt64.toNat_inj.1 hnat)
  rw [UInt64.le_iff_toNat_le]
  show 1 ≤ listing.defaultLimit.toNat
  omega

/-- Every resource of the catalog has an accepted listing. -/
theorem Resource.exists_build (r : Resource) : ∃ listing, r.declaration.build = .ok listing := by
  have h := r.isSome_build_declaration
  rcases hb : r.declaration.build with e | listing
  · rw [hb] at h
    simp [Except.toOption] at h
  · exact ⟨listing, rfl⟩

/-- The catalog is consistent, so there is one. -/
theorem Catalog.exists_build : ∃ catalog, build = .ok catalog := by
  obtain ⟨catalog, hcatalog⟩ := Option.isSome_iff_exists.1 isSome_build
  exact ⟨catalog, toOption_eq_some_iff.1 hcatalog⟩

/-- The catalog lists each resource as it is declared. -/
theorem Catalog.build_declaration {catalog : Catalog} (h : build = .ok catalog) (r : Resource) :
    r.declaration.build = .ok (catalog.listing r) := by
  unfold build at h
  obtain ⟨_, hspells, h⟩ := bind_eq_ok_iff.1 h
  obtain ⟨_, hclasses, h⟩ := bind_eq_ok_iff.1 h
  obtain ⟨_, hraces, h⟩ := bind_eq_ok_iff.1 h
  obtain ⟨_, hraceTraits, h⟩ := bind_eq_ok_iff.1 h
  obtain ⟨_, hskills, h⟩ := bind_eq_ok_iff.1 h
  obtain ⟨_, hfeats, h⟩ := bind_eq_ok_iff.1 h
  obtain ⟨_, hfeatBenefits, h⟩ := bind_eq_ok_iff.1 h
  obtain ⟨_, hreferenceTables, h⟩ := bind_eq_ok_iff.1 h
  cases h
  cases r with
  | spells => exact hspells
  | classes => exact hclasses
  | races => exact hraces
  | raceTraits => exact hraceTraits
  | skills => exact hskills
  | feats => exact hfeats
  | featBenefits => exact hfeatBenefits
  | referenceTables => exact hreferenceTables

/-! ## Rules -/

/-- The filter follows a rule of its own. -/
def Filter.hasRule (f : Filter) : Bool :=
  match f.target with
  | .rule _ _ => true
  | _ => false

/-- Of all rules the listing uses only the one of the spells' editions. -/
def Listing.UsesOnlyEditionRule (listing : Listing) : Prop :=
  ∀ key filter column rule, listing.filters.get? key = some filter →
    filter.target = .rule column rule → rule = Spells.editionRule

/-- The only rule that the spells have is the one for editions. -/
theorem Spells.usesOnlyEditionRule {listing : Listing} (h : declaration.build = .ok listing) :
    listing.UsesOnlyEditionRule := by
  have hfilters := (Declaration.builtInto_of_build h).filters
  intro key filter column rule hf htarget
  rw [OrderedMap.get?_eq_some_iff, hfilters] at hf
  simp only [declaration, List.mem_cons, Prod.mk.injEq, List.not_mem_nil, or_false] at hf
  -- of the nine filters the last one alone follows a rule
  rcases hf with ⟨-, rfl⟩ | ⟨-, rfl⟩ | ⟨-, rfl⟩ | ⟨-, rfl⟩ | ⟨-, rfl⟩ | ⟨-, rfl⟩ | ⟨-, rfl⟩
    | ⟨-, rfl⟩ | ⟨-, rfl⟩ <;> cases htarget
  rfl

end Compendium
