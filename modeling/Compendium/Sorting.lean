import Compendium.Listing.Declaration
import Compendium.Text.Blank
import Compendium.Text.Lowercase

/-!
# Compendium — sorting

The order that a request asks for, and the terms it comes to. A key that the list does not have
falls back to its default, and any direction but `desc` is ascending. Items that the key does not
tell apart are ordered by the group column, which is added unless the list is sorted by it already.
-/

namespace Compendium

inductive Direction where
  | ascending
  | descending
deriving DecidableEq, Repr, Inhabited

namespace Direction

def ofText (raw : String) : Direction :=
  if Text.equalsIgnoringAsciiCase (Text.trim raw) "desc" then .descending else .ascending

def text : Direction → String
  | ascending => "ASC"
  | descending => "DESC"

end Direction

structure SortChoice where
  key : String
  direction : Direction
deriving DecidableEq, Repr, Inhabited

/-- What the texts of the two sorting parameters choose. -/
def Listing.sortChoice (listing : Listing) (key direction : Option String) : SortChoice where
  key := match key.map Text.trim with
    | some key => if listing.sortKeys.contains key then key else listing.entity.defaultSort
    | none => listing.entity.defaultSort
  direction := match direction with
    | some raw => .ofText raw
    | none => .ascending

/-! ## Sort terms -/

/-- A column, or its least or greatest value in the group. -/
structure SortExpr where
  extremum : Option Extremum
  column : Column
deriving DecidableEq, Repr, Inhabited

def SortExpr.text (e : SortExpr) : String :=
  match e.extremum with
  | none => e.column.text
  | some .min => "MIN(" ++ e.column.text ++ ")"
  | some .max => "MAX(" ++ e.column.text ++ ")"

structure SortTerm where
  expr : SortExpr
  direction : Direction
deriving DecidableEq, Repr, Inhabited

def SortTerm.text (t : SortTerm) : String := t.expr.text ++ " " ++ t.direction.text

/-- An expression that is selected under a label. -/
structure LabelledExpr where
  expr : SortExpr
  label : String
deriving DecidableEq, Repr, Inhabited

def LabelledExpr.text (e : LabelledExpr) : String := e.expr.text ++ " AS " ++ e.label

/-- The terms to order by, and the first one's expression if it is selected as well. -/
structure OrderBy where
  terms : List SortTerm
  selected : Option LabelledExpr
deriving DecidableEq, Repr, Inhabited

def orderText (terms : List SortTerm) : String := ", ".intercalate (terms.map SortTerm.text)

namespace Listing

def tieBreaker (listing : Listing) : SortTerm := ⟨⟨none, listing.entity.group⟩, .ascending⟩

/-- `alternate` says whether the alternate table drives the query. -/
def orderBy (listing : Listing) (key : SortKey) (direction : Direction) (alternate : Bool) :
    OrderBy :=
  let source := if alternate then key.alternate.getD key.base else key.base
  let expr : SortExpr := ⟨source.extremum, listing.entity.qualify source.column⟩
  { terms :=
      if expr.text = listing.tieBreaker.expr.text then [⟨expr, direction⟩]
      else [⟨expr, direction⟩, listing.tieBreaker]
    selected := source.label.map (LabelledExpr.mk expr) }

/-- The order of a sort key, of the default sort if there is no such key, and of the group column if
there is no such default either. -/
def orderByChoice (listing : Listing) (choice : SortChoice) (alternate : Bool) : OrderBy :=
  match (listing.sortKeys.get? choice.key).or
      (listing.sortKeys.get? listing.entity.defaultSort) with
  | some key => listing.orderBy key choice.direction alternate
  | none => ⟨[listing.tieBreaker], none⟩

end Listing

end Compendium
