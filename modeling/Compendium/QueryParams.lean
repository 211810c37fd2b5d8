import Compendium.OrderedMap
import Compendium.Text.Blank
import Compendium.Text.Fields

/-!
# Compendium — query parameters

The pairs of a query string, grouped by key in the order in which the keys first appear. A key that
comes once keeps its text; a key that comes again keeps all its texts in order. A list of values can
be given either way, as one text with commas or by repeating the key, and `ParamValue.items` reads
both.
-/

namespace Compendium

inductive ParamValue where
  | once (text : String)
  | repeated (texts : List String)
deriving DecidableEq, Repr, Inhabited

namespace ParamValue

/-- The value with one more occurrence of the key. -/
def again : ParamValue → String → ParamValue
  | once text, next => repeated [text, next]
  | repeated texts, next => repeated (texts ++ [next])

/-- The texts between the commas of a single text; the texts of a repeated key as they are. -/
def pieces : ParamValue → List String
  | once text => Text.fields ',' text
  | repeated texts => texts

/-- The items of a list parameter, trimmed, blank ones left out. -/
def items (v : ParamValue) : List String :=
  (v.pieces.map Text.trim).filter (!·.isEmpty)

/-- What a parameter that takes one value reads. -/
def head : ParamValue → String
  | once text => text
  | repeated texts => texts.headD ""

/-- The parameter as it is quoted in a message. -/
def quoted : ParamValue → String
  | once text => text
  | repeated texts => ",".intercalate texts

end ParamValue

abbrev QueryParams := OrderedMap ParamValue

namespace QueryParams

def add (params : QueryParams) (pair : String × String) : QueryParams :=
  params.alter pair.1 fun
    | none => .once pair.2
    | some value => value.again pair.2

def ofPairs (pairs : List (String × String)) : QueryParams :=
  pairs.foldl add .empty

/-- The text of a parameter that takes one value, if it is given. -/
def head? (params : QueryParams) (key : String) : Option String :=
  (params.get? key).map ParamValue.head

/-- Grouping more pairs continues from the pairs already grouped. -/
theorem ofPairs_append (xs ys : List (String × String)) :
    ofPairs (xs ++ ys) = ys.foldl add (ofPairs xs) :=
  List.foldl_append

end QueryParams

end Compendium
