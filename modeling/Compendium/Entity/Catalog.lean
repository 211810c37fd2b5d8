import Compendium.Entity.Characters
import Compendium.Entity.Rules
import Compendium.Entity.Spells
import Compendium.Lookup.Set

/-!
# Compendium — the catalog

The seven lookups whose names stand for ids in requests, and the eight kinds of entity that can be
listed, each with its listing and its path. Filters name their lookups, and each name that a filter
of the catalog gives is the name of exactly one (`Resource.count_lookup_of_filter`).
-/

namespace Compendium

/-! ## Reference lookups -/

def displayedRows : String := "display = 1"

/-- The lookups before they are loaded. -/
def LookupSet.reference : LookupSet where
  lookups :=
    [ .unloaded "schools" ⟨"spell_schools", "school_id", ["school_name"], none⟩,
      .unloaded "subschools" ⟨"spell_subschools", "sub_id", ["subschool"], none⟩,
      .unloaded "descriptors" ⟨"spell_descriptors", "desc_id", ["descriptor"], none⟩,
      .unloaded "components"
        ⟨"spell_components", "comp_id", ["comp_name", "comp_abbrev"], none⟩,
      .unloaded "sources"
        ⟨"source_books", "book_id", ["title", "abbrev_title"], some displayedRows⟩,
      .unloaded "classes"
        ⟨"classes", "class_id", ["class_name", "class_abbr"], some displayedRows⟩,
      .unloaded "editions" ⟨"editions", "edition_id", ["edition_abbrev"], none⟩ ]

/-! ## Resources -/

inductive Resource where
  | spells
  | classes
  | races
  | raceTraits
  | skills
  | feats
  | featBenefits
  | referenceTables
deriving DecidableEq, Repr, Inhabited

namespace Resource

def all : List Resource :=
  [spells, classes, races, raceTraits, skills, feats, featBenefits, referenceTables]

def name : Resource → String
  | spells => "spells"
  | classes => "classes"
  | races => "races"
  | raceTraits => "race_traits"
  | skills => "skills"
  | feats => "feats"
  | featBenefits => "feat_benefits"
  | referenceTables => "reference_tables"

def path : Resource → String
  | spells => "/spells"
  | classes => "/classes"
  | races => "/races"
  | raceTraits => "/race-traits"
  | skills => "/skills"
  | feats => "/feats"
  | featBenefits => "/feat-benefits"
  | referenceTables => "/reference-tables"

def ofName? (name : String) : Option Resource := all.find? (·.name = name)

def ofPath? (path : String) : Option Resource := all.find? (·.path = path)

def declaration : Resource → Declaration
  | spells => Spells.declaration
  | classes => Classes.declaration
  | races => Races.declaration
  | raceTraits => RaceTraits.declaration
  | skills => Skills.declaration
  | feats => Feats.declaration
  | featBenefits => FeatBenefits.declaration
  | referenceTables => ReferenceTables.declaration

/-- Every declaration is consistent. -/
theorem isSome_build_declaration (r : Resource) : r.declaration.build.toOption.isSome := by
  cases r <;> decide +kernel

/-- A lookup that a filter names is one of the reference lookups, and the only one of that name. -/
theorem count_lookup_of_filter (r : Resource) :
    ∀ filter ∈ r.declaration.filters, ∀ name ∈ filter.2.lookup,
      (LookupSet.reference.lookups.map (·.name)).count name = 1 := by
  cases r <;> decide +kernel

end Resource

/-! ## The catalog -/

/-- The listing of every resource. -/
structure Catalog where
  listing : Resource → Listing

/-- What can keep the catalog from being loaded. -/
inductive StartupError where
  | lookup (error : LookupError)
  | declaration (error : DeclarationError)
deriving DecidableEq, Repr

def StartupError.message : StartupError → String
  | lookup error => error.message
  | declaration error => error.message

namespace Catalog

/-- The listings, or the first error if a declaration is inconsistent. -/
def build : Except DeclarationError Catalog := do
  let spells ← Spells.declaration.build
  let classes ← Classes.declaration.build
  let races ← Races.declaration.build
  let raceTraits ← RaceTraits.declaration.build
  let skills ← Skills.declaration.build
  let feats ← Feats.declaration.build
  let featBenefits ← FeatBenefits.declaration.build
  let referenceTables ← ReferenceTables.declaration.build
  return ⟨fun
    | .spells => spells
    | .classes => classes
    | .races => races
    | .raceTraits => raceTraits
    | .skills => skills
    | .feats => feats
    | .featBenefits => featBenefits
    | .referenceTables => referenceTables⟩

theorem isSome_build : build.toOption.isSome := by decide +kernel

/-- Load the reference lookups, then build the catalog. -/
def load (session : Session) : Except StartupError (Catalog × LookupSet) × Session :=
  match LookupSet.reference.loadAll session with
  | (.error e, _, session) => (.error (.lookup e), session)
  | (.ok (), lookups, session) =>
    (match build with
      | .error e => .error (.declaration e)
      | .ok catalog => .ok (catalog, lookups), session)

end Catalog

end Compendium
