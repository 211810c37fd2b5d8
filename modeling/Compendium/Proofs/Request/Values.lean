import Compendium.Proofs.Fallible
import Compendium.Proofs.FirstOccurrences
import Compendium.Request.Interpretation

/-!
# Compendium — values fit their filters

What a filter accepts has the form that the filter declares. A filter that takes several values gets
a list that is not empty and has no value twice; any other filter gets one value. The values are
ids if the filter has a lookup and of its own type otherwise, and a filter on substrings gets the
pattern of a text that is not blank.

* `Filter.Fits` says this of one value.
* `Filter.fits_of_interpret` says that every accepted value fits, whatever state the lookups are in.
-/

namespace Compendium

/-- The scalars of a type. -/
def ValueType.Admits : ValueType → Scalar → Prop
  | .string, .text _ => True
  | .int, .int _ => True
  | .boolean, .bool _ => True
  | _, _ => False

theorem ValueType.admits_of_scalar? {type : ValueType} {text : String} {v : Scalar}
    (h : type.scalar? text = some v) : type.Admits v := by
  cases type with
  | string =>
    cases h
    trivial
  | int =>
    obtain ⟨n, -, rfl⟩ := Option.map_eq_some_iff.1 h
    trivial
  | boolean =>
    obtain ⟨b, -, rfl⟩ := Option.map_eq_some_iff.1 h
    trivial

namespace Filter

/-- With a lookup texts become ids, whatever the filter's own type is. -/
def scalarType (f : Filter) : ValueType := if f.lookup.isSome then .int else f.valueType

/-- The value has the form that the filter declares. -/
def Fits (f : Filter) : FilterValue → Prop
  | .list vs => f.takesMany ∧ vs ≠ [] ∧ vs.Nodup ∧ ∀ v ∈ vs, f.scalarType.Admits v
  | .single v =>
    ¬f.takesMany ∧
      if f.isSubstring then ∃ t, ¬Text.isBlankText t ∧ v = .text (containsPattern t)
      else f.scalarType.Admits v

variable {f : Filter} {lookups : LookupSet} {key : String}

/-- The scalars of a list are ids, or of the filter's own type. -/
theorem admits_of_scalars {items : List String} {vs : List Scalar}
    (h : f.scalars lookups key items = .ok (.ok vs)) : ∀ v ∈ vs, f.scalarType.Admits v := by
  intro v hv
  unfold scalars at h
  rcases hlookup : f.lookup with _ | name
  · rw [hlookup] at h
    cases h
    obtain ⟨item, -, hitem⟩ := List.mem_filterMap.1 hv
    have htype : f.scalarType = f.valueType := by simp [scalarType, hlookup]
    rw [htype]
    exact ValueType.admits_of_scalar? hitem
  · have htype : f.scalarType = .int := by simp [scalarType, hlookup]
    rw [hlookup] at h
    obtain ⟨ids, -, hfound⟩ := bind_eq_ok_iff.1 h
    have hids : idsOrErrors key (items.zip ids) = .ok vs := Except.ok.inj hfound
    unfold idsOrErrors at hids
    split at hids
    · cases hids
      obtain ⟨found, -, hvalue⟩ := List.mem_filterMap.1 hv
      obtain ⟨id, -, rfl⟩ := Option.map_eq_some_iff.1 hvalue
      rw [htype]
      trivial
    · cases hids

/-- A list is never empty and has nothing twice. -/
theorem fits_of_interpretMany {param : ParamValue} {value : FilterValue} (hmany : f.takesMany)
    (h : f.interpretMany lookups key param = .ok (.value value)) : f.Fits value := by
  unfold interpretMany at h
  split at h
  · cases h
  · -- failures, errors and lists without scalars give no value
    rcases hscalars : f.scalars lookups key param.items with e | (errors | _ | ⟨v, vs⟩)
    · rw [hscalars] at h
      cases h
    · rw [hscalars] at h
      cases h
    · rw [hscalars] at h
      cases h
    · rw [hscalars] at h
      cases h
      refine ⟨hmany, ?_, nodup_eraseDups _, ?_⟩
      · rw [List.eraseDups_cons]
        exact List.cons_ne_nil _ _
      · intro w hw
        exact admits_of_scalars hscalars w (List.mem_eraseDups.1 hw)

/-- A single value that is no pattern only has to be of the type. -/
theorem fits_single {v : Scalar} (hmany : ¬f.takesMany) (hsubstring : ¬f.isSubstring)
    (hv : f.scalarType.Admits v) : f.Fits (.single v) := by
  show ¬f.takesMany ∧ if f.isSubstring then _ else _
  rw [if_neg hsubstring]
  exact ⟨hmany, hv⟩

/-- A single value is a pattern, an id, or of the filter's own type. -/
theorem fits_of_interpretOne {text : String} {value : FilterValue} (hmany : ¬f.takesMany)
    (h : f.interpretOne lookups key text = .ok (.value value)) : f.Fits value := by
  unfold interpretOne at h
  split at h
  · cases h
  · rename_i hblank
    split at h
    · rename_i hsubstring
      cases h
      show ¬f.takesMany ∧ if f.isSubstring then _ else _
      rw [if_pos hsubstring]
      exact ⟨hmany, text, hblank, rfl⟩
    · rename_i hsubstring
      split at h
      · rename_i name hlookup
        have htype : f.scalarType = .int := by simp [scalarType, hlookup]
        -- of the lookup's answers only an id gives a value
        rcases hresolve : lookups.resolve name text with e | (_ | id)
        · rw [hresolve] at h
          cases h
        · rw [hresolve] at h
          cases h
        · rw [hresolve] at h
          cases h
          refine fits_single hmany hsubstring ?_
          rw [htype]
          trivial
      · rename_i hlookup
        have htype : f.scalarType = f.valueType := by simp [scalarType, hlookup]
        split at h
        · rename_i v hv
          cases h
          refine fits_single hmany hsubstring ?_
          rw [htype]
          exact ValueType.admits_of_scalar? hv
        · cases h

/-- Whatever a filter accepts fits it. -/
theorem fits_of_interpret {param : ParamValue} {value : FilterValue}
    (h : f.interpret lookups key param = .ok (.value value)) : f.Fits value := by
  unfold interpret at h
  split at h
  · rename_i hmany
    exact fits_of_interpretMany hmany h
  · rename_i hmany
    exact fits_of_interpretOne hmany h

/-- A value that fits asks for something, and for no scalar twice. -/
theorem Fits.toList {value : FilterValue} (h : f.Fits value) :
    value.toList ≠ [] ∧ value.toList.Nodup := by
  cases value with
  | single v => exact ⟨List.cons_ne_nil _ _, by simp [FilterValue.toList]⟩
  | list vs => exact ⟨h.2.1, h.2.2.1⟩

end Filter

end Compendium
