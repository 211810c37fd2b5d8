import Compendium.Entity.Spells
import Compendium.Entity.Characters
import Compendium.Proofs.Lookup.Names
import Compendium.Proofs.QueryParams.Splitting
import Compendium.Proofs.Request.Acceptance

/-!
# Compendium — lists item by item

What a filter that takes several values makes of a list, while its lookup answers. Every item that is
not blank is a scalar or is none, by itself and whatever stands beside it (`Filter.scalarOf?`). With
a lookup, an item that is none rejects the list and all such items are reported, repeated ones
repeatedly; without one, it is left out. The scalars then lose their repetitions, also where the
texts differ, and a list that has no scalars left is rejected as it was given.

* `Filter.scalars_of_known` and `Filter.scalars_of_unknown` are the two outcomes for the items.
* `lists_are_read_item_by_item` is what becomes of the list.
-/

namespace Compendium

/-- A lookup that was filled by hand answers as its entries do. -/
theorem LookupSet.resolve_of_find? {lookups : LookupSet} {name : String} {entries : List NameEntry}
    (h : lookups.find? name = some (.ofEntries name entries)) (text : String) :
    lookups.resolve name text = .ok (NameIndex.resolveIn entries text) := by
  rw [resolve, h, ← NameIndex.resolve_ofEntries]
  rfl

theorem LookupSet.idOf_of_find? {lookups : LookupSet} {name : String} {entries : List NameEntry}
    (h : lookups.find? name = some (.ofEntries name entries)) (text : String) :
    lookups.idOf name text = NameIndex.resolveIn entries text := by
  rw [idOf, resolve_of_find? h]
  exact Option.join_some

namespace Filter

/-- The scalar that an item comes to: its id, or a value of the filter's own type. -/
def scalarOf? (f : Filter) (lookups : LookupSet) (item : String) : Option Scalar :=
  match f.lookup with
  | some name => (lookups.idOf name item).map .int
  | none => f.valueType.scalar? item

/-- The items that the filter's lookup does not know. Without a lookup there are none. -/
def unknown (f : Filter) (lookups : LookupSet) (items : List String) : List String :=
  if f.lookup.isSome then items.filter fun item => (f.scalarOf? lookups item).isNone else []

variable {f : Filter} {lookups : LookupSet} {key : String} {items : List String}

theorem misses_of_lookup {name : String} (hlookup : f.lookup = some name) :
    misses (items.map fun item => (item, lookups.idOf name item)) = f.unknown lookups items := by
  simp only [misses_map, unknown, scalarOf?, hlookup, Option.isSome_some, if_true,
    Option.isNone_map]

/-- One unknown item puts the whole list in error, with a message for each. -/
theorem scalars_of_unknown (hready : f.CanLookUp lookups) (h : f.unknown lookups items ≠ []) :
    f.scalars lookups key items
      = .ok (.error ((f.unknown lookups items).map (.lookupNotFound key))) := by
  rcases hlookup : f.lookup with _ | name
  · -- without a lookup no item is unknown
    exact absurd (by simp [unknown, hlookup]) h
  · rw [← misses_of_lookup hlookup] at h ⊢
    rw [scalars_of_answers hready, hlookup]
    exact congrArg Except.ok (idsOrErrors_of_misses h)

/-- If no item is unknown, those that are scalars remain. -/
theorem scalars_of_known (hready : f.CanLookUp lookups) (h : f.unknown lookups items = []) :
    f.scalars lookups key items = .ok (.ok (items.filterMap (f.scalarOf? lookups))) := by
  rw [scalars_of_answers hready]
  rcases hlookup : f.lookup with _ | name
  · have hscalar : f.scalarOf? lookups = f.valueType.scalar? := by
      funext item
      rw [scalarOf?, hlookup]
    rw [hscalar]
  · rw [← misses_of_lookup hlookup] at h
    show Except.ok (idsOrErrors key _) = _
    rw [idsOrErrors_of_no_misses h, List.filterMap_map]
    have hscalar : f.scalarOf? lookups = fun item => (lookups.idOf name item).map .int := by
      funext item
      rw [scalarOf?, hlookup]
    rw [hscalar]
    rfl

/-! ## The list -/

variable {param : ParamValue}

theorem interpret_of_items_eq_nil (hmany : f.takesMany = true) (h : param.items = []) :
    f.interpret lookups key param = .ok .blank := by
  rw [interpret, if_pos hmany, interpretMany, h]
  rfl

/-- Unknown items are reported, and nothing is kept of the list. -/
theorem interpret_of_unknown (hmany : f.takesMany = true) (hready : f.CanLookUp lookups)
    (h : f.unknown lookups param.items ≠ []) :
    f.interpret lookups key param
      = .ok (.rejected ((f.unknown lookups param.items).map (.lookupNotFound key))) := by
  -- an item that is unknown is an item
  have hitems : ¬param.items.isEmpty = true := by
    intro hempty
    rw [List.isEmpty_iff.1 hempty] at h
    exact h (by simp [unknown])
  rw [interpret, if_pos hmany, interpretMany, if_neg hitems, scalars_of_unknown hready h]
  rfl

/-- A list without scalars is quoted as it was given. -/
theorem interpret_of_no_scalars (hmany : f.takesMany = true) (hready : f.CanLookUp lookups)
    (hitems : param.items ≠ []) (hknown : f.unknown lookups param.items = [])
    (h : param.items.filterMap (f.scalarOf? lookups) = []) :
    f.interpret lookups key param = .ok (.rejected [.noValidValues key param.quoted]) := by
  rw [interpret, if_pos hmany, interpretMany, if_neg (by simpa using hitems),
    scalars_of_known hready hknown, h]
  rfl

/-- Scalars are kept in the order in which they first occur. -/
theorem interpret_of_scalars (hmany : f.takesMany = true) (hready : f.CanLookUp lookups)
    (hknown : f.unknown lookups param.items = [])
    (h : param.items.filterMap (f.scalarOf? lookups) ≠ []) :
    f.interpret lookups key param
      = .ok (.value (.list (param.items.filterMap (f.scalarOf? lookups)).eraseDups)) := by
  have hitems : param.items ≠ [] := by
    intro hnil
    rw [hnil] at h
    exact h rfl
  -- there is a first scalar, so the list is not rejected
  obtain ⟨v, vs, hscalars⟩ := List.exists_cons_of_ne_nil h
  rw [interpret, if_pos hmany, hscalars]
  refine interpretMany_of_scalars hitems ?_
  rw [scalars_of_known hready hknown, hscalars]

end Filter

/-- A list whose pieces are all blank asks for nothing. If a lookup does not know some of the items,
the list is rejected with an error for each of these, in order, and nothing is kept. Otherwise the
list has the scalars that its items come to, in the order in which they first occur and each of them
once; and a list of items that come to no scalar at all is rejected with its own text. -/
theorem lists_are_read_item_by_item {f : Filter} (hmany : f.takesMany = true) {lookups : LookupSet}
    (hready : f.CanLookUp lookups) (key : String) {param : ParamValue} {pieces : List String}
    (hpieces : param.Splits pieces) :
    let items := ParamValue.itemsOf pieces
    let unknown := f.unknown lookups items
    let scalars := items.filterMap (f.scalarOf? lookups)
    (items = [] → f.interpret lookups key param = .ok .blank)
      ∧ (unknown ≠ [] → f.interpret lookups key param
          = .ok (.rejected (unknown.map (.lookupNotFound key))))
      ∧ (items ≠ [] → unknown = [] → scalars = [] → f.interpret lookups key param
          = .ok (.rejected [.noValidValues key param.quoted]))
      ∧ (unknown = [] → scalars ≠ [] →
          ∃ vs, f.interpret lookups key param = .ok (.value (.list vs))
            ∧ ∀ ws, FirstOccurrences scalars ws ↔ ws = vs) := by
  simp only
  rw [← hpieces.items]
  refine ⟨Filter.interpret_of_items_eq_nil hmany, Filter.interpret_of_unknown hmany hready,
    Filter.interpret_of_no_scalars hmany hready, fun hknown hscalars => ?_⟩
  exact ⟨_, Filter.interpret_of_scalars hmany hready hknown hscalars,
    fun ws => firstOccurrences_iff⟩

/-- The components of spells, by letter and by number. -/
def Spells.components : Filter :=
  tag ⟨"spell_component_map", "scm"⟩ "comp_id" "components" ⟨none, "component_ids"⟩

def Spells.componentEntries : List NameEntry := [⟨1, ["V"]⟩, ⟨2, ["S", "Som"]⟩]

def Spells.componentLookups : LookupSet := ⟨[.ofEntries "components" componentEntries]⟩

theorem Spells.canLookUp_components : components.CanLookUp componentLookups := by
  intro name hname
  cases hname
  exact ⟨_, rfl, rfl⟩

/-- A component is known by its letter or by its number. -/
theorem Spells.scalarOf?_components : components.scalarOf? componentLookups
    = fun item => (NameIndex.resolveIn componentEntries item).map .int := by
  have hfind : componentLookups.find? "components"
      = some (.ofEntries "components" componentEntries) := rfl
  funext item
  show (componentLookups.idOf "components" item).map Scalar.int = _
  rw [LookupSet.idOf_of_find? hfind]

/-- One component under two names and its number counts once, and what is none is reported as often
as it is asked for. Without a lookup what is no number is passed over. -/
theorem lists_are_read_item_by_item_components :
    Spells.components.interpret Spells.componentLookups "components" (.once " som,2,, V,s ")
        = .ok (.value (.list [.int 2, .int 1]))
      ∧ Spells.components.interpret Spells.componentLookups "components"
          (.repeated ["x", "V", "3,1", "x "])
        = .ok (.rejected [.lookupNotFound "components" "x", .lookupNotFound "components" "3,1",
            .lookupNotFound "components" "x"])
      ∧ Races.editions.interpret ⟨[]⟩ "edition_id" (.once "x, ,y")
        = .ok (.rejected [.noValidValues "edition_id" "x, ,y"])
      ∧ Races.editions.interpret ⟨[]⟩ "edition_id" (.repeated [" ", ""]) = .ok .blank := by
  have hready : Races.editions.CanLookUp ⟨[]⟩ := by
    intro name hname
    cases hname
  have hmany : Spells.components.takesMany ∧ Races.editions.takesMany := by decide
  -- for the components and for the editions, whatever comes in
  have hcomponents := fun {param pieces} (hpieces : ParamValue.Splits param pieces) =>
    lists_are_read_item_by_item hmany.1 Spells.canLookUp_components "components" hpieces
  have heditions := fun {param pieces} (hpieces : ParamValue.Splits param pieces) =>
    lists_are_read_item_by_item hmany.2 hready "edition_id" hpieces
  simp only [Filter.unknown, Spells.scalarOf?_components] at hcomponents
  refine ⟨?_, ?_, ?_, ?_⟩
  · have hsplits : (ParamValue.once " som,2,, V,s ").Splits [" som", "2", "", " V", "s "] :=
      ParamValue.splits_iff.2 (by decide +kernel)
    obtain ⟨vs, hread, hvs⟩ := (hcomponents hsplits).2.2.2 (by decide +kernel) (by decide +kernel)
    have hkept : [.int 2, .int 1] = vs :=
      (hvs _).1 (firstOccurrences_iff.2 (by decide +kernel))
    rw [hread, hkept]
  · have hsplits : (ParamValue.repeated ["x", "V", "3,1", "x "]).Splits
        ["x", "V", "3,1", "x "] := rfl
    have hread := (hcomponents hsplits).2.1 (by decide +kernel)
    rw [hread]
    decide +kernel
  · have hsplits : (ParamValue.once "x, ,y").Splits ["x", " ", "y"] :=
      ParamValue.splits_iff.2 (by decide +kernel)
    exact (heditions hsplits).2.2.1 (by decide +kernel) (by decide +kernel) (by decide +kernel)
  · have hsplits : (ParamValue.repeated [" ", ""]).Splits [" ", ""] := rfl
    exact (heditions hsplits).1 (by decide +kernel)

end Compendium
