import Compendium.Listing.Filter
import Compendium.Listing.Reserved
import Compendium.Listing.SortKey
import Compendium.OrderedMap

/-!
# Compendium — listings

A listing says how one kind of entity is listed: its tables, its filters by key, the keys it can be
sorted by, its summaries and the length of a page. It is declared as lists and checked once.
`Declaration.build` gives the listing or the first thing wrong with the declaration: the filters in
order, then the sort keys, the default sort, the summaries and the default limit.
-/

namespace Compendium

structure Listing where
  resource : String
  entity : Entity
  filters : OrderedMap Filter
  sortKeys : OrderedMap SortKey
  summaries : List Summary
  defaultLimit : UInt64

inductive DeclarationError where
  | duplicateKey (resource key : String)
  | reservedKey (resource key : String)
  | missingJoin (resource key : String)
  | missingAlternateTable (resource key : String)
  | unknownDefaultSort (resource sort : String)
  | invalidDefaultLimit (resource : String)
deriving DecidableEq, Repr

def DeclarationError.message : DeclarationError → String
  | duplicateKey resource key => resource ++ ": filter key `" ++ key ++ "` is declared twice"
  | reservedKey resource key =>
    resource ++ ": filter key `" ++ key ++ "` collides with a reserved parameter"
  | missingJoin resource key =>
    resource ++ ": `" ++ key
      ++ "` is multi-valued or supports logic but is neither a join nor a direct column"
  | missingAlternateTable resource key =>
    resource ++ ": `" ++ key
      ++ "` refers to the alternate base table, which is not configured"
  | unknownDefaultSort resource sort =>
    resource ++ ": default sort `" ++ sort ++ "` is not an allowed sort key"
  | invalidDefaultLimit resource => resource ++ ": default limit must be greater than zero"

structure Declaration where
  resource : String
  entity : Entity
  filters : List (String × Filter)
  sortKeys : List SortKey
  summaries : List Summary
  defaultLimit : UInt64

/-- The length of a page unless the declaration says otherwise. -/
def standardLimit : UInt64 := 20

namespace Declaration

/-- A listing without filters, sort keys and summaries. -/
def ofEntity (resource : String) (entity : Entity) : Declaration :=
  ⟨resource, entity, [], [], [], standardLimit⟩

/-! ## Filters and sort keys that have the name of their column -/

def columnFilter (column : String) (valueType : ValueType) : String × Filter :=
  (column, { Filter.onColumn (.onBase column) with valueType := valueType })

/-- A column of integers, of which a request may give several. -/
def manyFilter (column : String) : String × Filter :=
  (column, { Filter.onColumn (.onBase column) with takesMany := true, takesLogic := true })

def substringFilter (column : String) : String × Filter :=
  (column, .onSubstring (.onBase column))

def columnSort (column : String) : SortKey := .ofColumn column (.onBase column)

/-! ## Checking -/

def hasAlternate (d : Declaration) : Bool := d.entity.alternate.isSome

def addFilter (d : Declaration) (filters : OrderedMap Filter) (declared : String × Filter) :
    Except DeclarationError (OrderedMap Filter) :=
  let (key, filter) := declared
  if isReserved key then .error (.reservedKey d.resource key)
  else if (filter.takesMany || filter.takesLogic) && !filter.canTakeMany then
    .error (.missingJoin d.resource key)
  else if !d.hasAlternate && (filter.switchesBase || filter.needsAlternate) then
    .error (.missingAlternateTable d.resource key)
  else if filters.contains key then .error (.duplicateKey d.resource key)
  else .ok (filters.insert key filter)

def addSortKey (d : Declaration) (keys : OrderedMap SortKey) (key : SortKey) :
    Except DeclarationError (OrderedMap SortKey) :=
  if !d.hasAlternate && key.needsAlternate then
    .error (.missingAlternateTable d.resource key.name)
  else if keys.contains key.name then .error (.duplicateKey d.resource key.name)
  else .ok (keys.insert key.name key)

/-- The first text that stands in the list before, or in `seen`. -/
def firstRepeated (seen : List String) : List String → Option String
  | [] => none
  | s :: rest => if s ∈ seen then some s else firstRepeated (s :: seen) rest

/-- What is wrong apart from the filters and the sort keys. -/
def settingsError? (d : Declaration) (keys : OrderedMap SortKey) : Option DeclarationError :=
  if !keys.contains d.entity.defaultSort then
    some (.unknownDefaultSort d.resource d.entity.defaultSort)
  else match firstRepeated [] (d.summaries.map (·.label)) with
    | some label => some (.duplicateKey d.resource label)
    | none => if d.defaultLimit = 0 then some (.invalidDefaultLimit d.resource) else none

def build (d : Declaration) : Except DeclarationError Listing := do
  let filters ← d.filters.foldlM d.addFilter .empty
  let keys ← d.sortKeys.foldlM d.addSortKey .empty
  match d.settingsError? keys with
  | some e => .error e
  | none => .ok ⟨d.resource, d.entity, filters, keys, d.summaries, d.defaultLimit⟩

end Declaration

end Compendium
