import Compendium.Scalar

/-!
# Compendium — SQL fragments

SQL text with bound values. A fragment is a row of pieces, each a literal text or a hole for one
value; the text with a question mark for every hole and the list of the values are two readings of
the same row, so the i-th mark always stands for the i-th value (`values_append`, `sql_append`).
-/

namespace Compendium

inductive Piece where
  | text (sql : String)
  | hole (value : Scalar)
deriving DecidableEq, Repr

namespace Piece

def sql : Piece → String
  | text sql => sql
  | hole _ => "?"

def value? : Piece → Option Scalar
  | text _ => none
  | hole value => some value

end Piece

abbrev Fragment := List Piece

namespace Fragment

def sql (f : Fragment) : String := String.join (f.map Piece.sql)

def values (f : Fragment) : List Scalar := f.filterMap Piece.value?

/-- The fragments in order with `separator` between any two. -/
def joined (separator : String) : List Fragment → Fragment
  | [] => []
  | [f] => f
  | f :: fs => f ++ .text separator :: joined separator fs

@[simp] theorem values_nil : values [] = [] := rfl

@[simp] theorem values_text (s : String) (f : Fragment) : values (.text s :: f) = values f := rfl

@[simp] theorem values_hole (v : Scalar) (f : Fragment) :
    values (.hole v :: f) = v :: values f := rfl

@[simp] theorem values_append (f g : Fragment) : values (f ++ g) = values f ++ values g :=
  List.filterMap_append

theorem sql_append (f g : Fragment) : sql (f ++ g) = sql f ++ sql g := by
  rw [sql, List.map_append, String.join_append]
  rfl

theorem values_joined (separator : String) (fs : List Fragment) :
    values (joined separator fs) = fs.flatMap values := by
  induction fs with
  | nil => rfl
  | cons f fs ih =>
    cases fs with
    | nil => simp [joined]
    | cons g gs => simp [joined, ih]

end Fragment

end Compendium
