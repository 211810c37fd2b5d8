import Compendium.Text.Blank
import Compendium.Text.Lowercase

/-!
# Compendium — filter values

A request gives a filter one scalar or a list of them. `Quantifier` says how many of a list's
scalars a match must have: any of them, or all.
-/

namespace Compendium

inductive Scalar where
  | int (value : Int64)
  | bool (value : Bool)
  | text (value : String)
deriving DecidableEq, Repr, Inhabited

inductive FilterValue where
  | single (value : Scalar)
  | list (values : List Scalar)
deriving DecidableEq, Repr, Inhabited

namespace FilterValue

def toList : FilterValue → List Scalar
  | single value => [value]
  | list values => values

def isEmpty (v : FilterValue) : Bool := v.toList.isEmpty

end FilterValue

inductive Quantifier where
  | any
  | all
deriving DecidableEq, Repr, Inhabited

/-- The word `and` asks for all values; any other text, for any of them. -/
def Quantifier.ofText (raw : String) : Quantifier :=
  if Text.equalsIgnoringAsciiCase (Text.trim raw) "and" then .all else .any

end Compendium
