import Compendium.OrderedMap
import Compendium.Scalar

/-!
# Compendium — selections

What a request selects: a value for each of some filters, in the order in which they were first
set, the quantifiers it asks for, and a search over several columns.
-/

namespace Compendium

/-- One pattern, looked for in the columns of several filters. -/
structure ColumnSearch where
  keys : List String
  pattern : String
deriving DecidableEq, Repr, Inhabited

/-- The pattern for the texts that contain `text`. -/
def containsPattern (text : String) : String := "%" ++ text ++ "%"

structure Selection where
  values : OrderedMap FilterValue
  quantifiers : OrderedMap Quantifier
  search : Option ColumnSearch

namespace Selection

def empty : Selection := ⟨.empty, .empty, none⟩

instance : Inhabited Selection := ⟨empty⟩

def setValue (s : Selection) (key : String) (value : FilterValue) : Selection :=
  { s with values := s.values.insert key value }

def setQuantifier (s : Selection) (key : String) (quantifier : Quantifier) : Selection :=
  { s with quantifiers := s.quantifiers.insert key quantifier }

def setSearch (s : Selection) (search : ColumnSearch) : Selection :=
  { s with search := some search }

/-- Any of the values will do, unless all were asked for. -/
def quantifier (s : Selection) (key : String) : Quantifier :=
  (s.quantifiers.get? key).getD .any

end Selection

end Compendium
