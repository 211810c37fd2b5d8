import Compendium.Listing.Declaration
import Compendium.Lookup.Set
import Compendium.QueryParams
import Compendium.Request.Selection
import Compendium.Text.Integer

/-!
# Compendium — interpreting a parameter

What a filter makes of the text it is given. A blank parameter asks for nothing. Otherwise the text
becomes values of the filter's type, or ids if the filter has a lookup, or it is rejected with
everything that is wrong with it. A lookup that is not ready makes the whole request fail.

A list keeps the first of equal values, so that its length is the number of different values a row
must have if it must have all. With a lookup one unknown item rejects the list; without one, items
that are no values are dropped, unless all are.

The errors of a request are collected, so that a client can mend them all at once;
`ParamError.message` is what the client is told.
-/

namespace Compendium

/-- What can be wrong with a query parameter. -/
inductive ParamError where
  /-- Neither a filter of the list nor a reserved parameter. -/
  | unknownParameter (key : String)
  /-- The companion of a filter that has none. -/
  | unsupportedLogic (key : String)
  /-- A value that its lookup does not know. -/
  | lookupNotFound (key value : String)
  /-- A list in which no item is a value. -/
  | noValidValues (key text : String)
  | invalidValue (key value : String)
  /-- Keys to search in that have no column to search. -/
  | invalidSearchColumns (columns : List String)
deriving DecidableEq, Repr

def ParamError.message : ParamError → String
  | unknownParameter key => "Invalid query parameter: " ++ key
  | unsupportedLogic key => "Logic parameter " ++ key ++ "_logic not supported for " ++ key
  | lookupNotFound key value => key ++ " not found: " ++ value
  | noValidValues key text => "No valid IDs found for " ++ key ++ ": " ++ text
  | invalidValue key value => "Invalid value for " ++ key ++ ": " ++ value
  | invalidSearchColumns columns => "Invalid columns in mclist: " ++ ", ".intercalate columns

/-! ## Interpreting -/

inductive Interpretation where
  | value (value : FilterValue)
  | blank
  | rejected (errors : List ParamError)
deriving DecidableEq, Repr

def boolOfWord (text : String) : Option Bool :=
  let word := Text.lowercaseAscii (Text.trim text)
  if word = "true" ∨ word = "1" ∨ word = "yes" then some true
  else if word = "false" ∨ word = "0" ∨ word = "no" then some false
  else none

def ValueType.scalar? (type : ValueType) (text : String) : Option Scalar :=
  match type with
  | .string => some (.text text)
  | .int => (Text.int64? (Text.trim text)).map .int
  | .boolean => (boolOfWord text).map .bool

namespace Filter

/-! ## Lists -/

/-- The texts that were looked up in vain. -/
def misses (found : List (String × Option Int64)) : List String :=
  found.filterMap fun (text, id) => if id.isNone then some text else none

/-- The ids of all texts, or an error for each that has none. -/
def idsOrErrors (key : String) (found : List (String × Option Int64)) :
    Except (List ParamError) (List Scalar) :=
  match misses found with
  | [] => .ok (found.filterMap fun (_, id) => id.map .int)
  | unknown => .error (unknown.map (.lookupNotFound key))

/-- The scalars of a list's items, equal ones included. -/
def scalars (f : Filter) (lookups : LookupSet) (key : String) (items : List String) :
    Except LookupError (Except (List ParamError) (List Scalar)) :=
  match f.lookup with
  | none => .ok (.ok (items.filterMap f.valueType.scalar?))
  | some name => do
    let ids ← items.mapM (lookups.resolve name)
    return idsOrErrors key (items.zip ids)

def interpretMany (f : Filter) (lookups : LookupSet) (key : String) (param : ParamValue) :
    Except LookupError Interpretation :=
  if param.items.isEmpty then .ok .blank
  else (f.scalars lookups key param.items).map fun
    | .error errors => .rejected errors
    | .ok [] => .rejected [.noValidValues key param.quoted]
    | .ok scalars => .value (.list scalars.eraseDups)

/-! ## Single values -/

def interpretOne (f : Filter) (lookups : LookupSet) (key : String) (text : String) :
    Except LookupError Interpretation :=
  if Text.isBlankText text then .ok .blank
  else if f.isSubstring then .ok (.value (.single (.text (containsPattern text))))
  else match f.lookup with
    | some name =>
      (lookups.resolve name text).map fun
        | some id => .value (.single (.int id))
        | none => .rejected [.lookupNotFound key text]
    | none =>
      match f.valueType.scalar? text with
      | some scalar => .ok (.value (.single scalar))
      | none => .ok (.rejected [.invalidValue key text])

def interpret (f : Filter) (lookups : LookupSet) (key : String) (param : ParamValue) :
    Except LookupError Interpretation :=
  if f.takesMany then f.interpretMany lookups key param
  else f.interpretOne lookups key param.head

end Filter

end Compendium
