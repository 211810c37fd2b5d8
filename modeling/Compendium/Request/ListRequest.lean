import Compendium.Paging
import Compendium.Request.Interpretation
import Compendium.Sorting

/-!
# Compendium — list requests

Reading the parameters of a list request. Each parameter is read by itself: as a paging or sorting
parameter, as a filter, as a filter's companion, or as a mistake. The request is what the readings
come to together (`Listing.gather`); its errors are those of the parameters in the order in which
they first appear, and last the error of the search over several columns. Only a lookup that is not
ready makes reading fail.
-/

namespace Compendium

structure ListRequest where
  selection : Selection
  pagination : Pagination
  sort : SortChoice
  errors : List ParamError
  /-- The alternate table drives the query. -/
  alternate : Bool
deriving Inhabited

def ListRequest.isValid (r : ListRequest) : Bool := r.errors.isEmpty

/-! ## Reading one parameter -/

inductive Reading where
  | value (key : String) (value : FilterValue) (switchesBase : Bool)
  | quantifier (key : String) (quantifier : Quantifier)
  | rejected (errors : List ParamError)
  /-- Blank, or read elsewhere. -/
  | nothing
deriving DecidableEq, Repr

namespace Reading

def value? : Reading → Option (String × FilterValue)
  | value key v _ => some (key, v)
  | _ => none

def quantifier? : Reading → Option (String × Quantifier)
  | quantifier key q => some (key, q)
  | _ => none

def errors : Reading → List ParamError
  | rejected errors => errors
  | _ => []

def needsAlternate : Reading → Bool
  | value _ v switchesBase => switchesBase && !v.isEmpty
  | _ => false

end Reading

namespace Listing

/-- A parameter that is no filter: the companion of one, or a mistake. -/
def readCompanion (listing : Listing) (key : String) (param : ParamValue) : Reading :=
  match (companionOf? key).bind fun owner => (listing.filters.get? owner).map (owner, ·) with
  | some (owner, filter) =>
    if filter.takesLogic then .quantifier owner (.ofText param.head)
    else .rejected [.unsupportedLogic owner]
  | none => .rejected [.unknownParameter key]

def readParam (listing : Listing) (lookups : LookupSet) (key : String) (param : ParamValue) :
    Except LookupError Reading :=
  if reservedParams.contains key then .ok .nothing
  else match listing.filters.get? key with
    | none => .ok (listing.readCompanion key param)
    | some filter =>
      (filter.interpret lookups key param).map fun
        | .value v => .value key v filter.switchesBase
        | .blank => .nothing
        | .rejected errors => .rejected errors

/-! ## The search over several columns

`mclist` names filters with a column to search in, `mcfilter` gives the text. Both are needed; a key
that cannot be searched is an error whether there is a text or not. -/

def isSearchable (listing : Listing) (key : String) : Bool :=
  match listing.filters.get? key with
  | some filter => filter.searchColumn.isSome
  | none => false

def readSearch (listing : Listing) (keys : List String) (text : String) :
    Except ParamError (Option ColumnSearch) :=
  match keys.filter (!listing.isSearchable ·) with
  | [] =>
    if keys.isEmpty || Text.isBlankText text then .ok none
    else .ok (some ⟨keys.eraseDups, containsPattern text⟩)
  | unknown => .error (.invalidSearchColumns unknown)

def searchOf (listing : Listing) (params : QueryParams) :
    Except ParamError (Option ColumnSearch) :=
  match params.get? "mclist" with
  | none => .ok none
  | some list => listing.readSearch list.items ((params.head? "mcfilter").getD "")

/-! ## Reading the request -/

def gather (listing : Listing) (params : QueryParams) (readings : List Reading) : ListRequest :=
  let search := listing.searchOf params
  { selection :=
      { values := .ofList (readings.filterMap Reading.value?)
        quantifiers := .ofList (readings.filterMap Reading.quantifier?)
        search := match search with
          | .ok search => search
          | .error _ => none }
    pagination := .ofTexts (params.head? "page") (params.head? "limit") listing.defaultLimit
    sort := listing.sortChoice (params.head? "sort") (params.head? "order")
    errors := readings.flatMap Reading.errors
      ++ match search with
        | .ok _ => []
        | .error e => [e]
    alternate := readings.any Reading.needsAlternate }

def readRequest (listing : Listing) (lookups : LookupSet) (params : QueryParams) :
    Except LookupError ListRequest := do
  let readings ← params.toList.mapM fun (key, param) => listing.readParam lookups key param
  return listing.gather params readings

end Listing

end Compendium
