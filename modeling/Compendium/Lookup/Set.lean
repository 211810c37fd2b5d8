import Compendium.Lookup.Basic

/-!
# Compendium — sets of lookups

The lookups that filters refer to. A lookup is known by the name that its errors show, and the names
in a set are taken to be distinct, as those of the reference lookups are: of two with the same name
only the first would ever be asked. `LookupSet.loadAll` loads the lookups in order and stops at the
first that fails, so a later call takes up where an earlier one stopped.
-/

namespace Compendium

/-- The lookups in the order in which they load. -/
structure LookupSet where
  lookups : List Lookup
deriving Inhabited

namespace LookupSet

/-- The first lookup of that name. -/
def find? (set : LookupSet) (name : String) : Option Lookup :=
  set.lookups.find? (·.name = name)

/-- A lookup that is not there is never ready. -/
def resolve (set : LookupSet) (name input : String) : Except LookupError (Option Int64) :=
  match set.find? name with
  | some lookup => lookup.resolve input
  | none => .error (.notReady name)

def loadEach : List Lookup → Session → Except LookupError Unit × List Lookup × Session
  | [], session => (.ok (), [], session)
  | lookup :: rest, session =>
    match lookup.load session with
    | (.error e, lookup, session) => (.error e, lookup :: rest, session)
    | (.ok _, lookup, session) =>
      let (outcome, rest, session) := loadEach rest session
      (outcome, lookup :: rest, session)

def loadAll (set : LookupSet) (session : Session) :
    Except LookupError Unit × LookupSet × Session :=
  let (outcome, lookups, session) := loadEach set.lookups session
  (outcome, ⟨lookups⟩, session)

end LookupSet

end Compendium
