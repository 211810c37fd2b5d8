import Std.Data.HashMap
import Std.Data.HashSet
import Compendium.Text.Blank
import Compendium.Text.Integer
import Compendium.Text.Lowercase

/-!
# Compendium — indexes of names

Resolves what a person enters (an id, a name, an abbreviation) to the id of an entry. An integer
is an id and never a name. Names are compared trimmed and in lowercase; of two entries with one name
the first has it, and a blank name names nothing.
-/

namespace Compendium

structure NameEntry where
  id : Int64
  names : List String
deriving DecidableEq, Repr, Inhabited

structure NameIndex where
  ids : Std.HashSet Int64
  byName : Std.HashMap String Int64

namespace NameIndex

def empty : NameIndex := ⟨∅, ∅⟩

instance : Inhabited NameIndex := ⟨empty⟩

/-- The form in which names are compared. -/
def nameKey (name : String) : String := Text.lowercase (Text.trim name)

def addName (id : Int64) (byName : Std.HashMap String Int64) (name : String) :
    Std.HashMap String Int64 :=
  let key := nameKey name
  if key.isEmpty then byName else byName.insertIfNew key id

def add (index : NameIndex) (entry : NameEntry) : NameIndex :=
  ⟨index.ids.insert entry.id, entry.names.foldl (addName entry.id) index.byName⟩

def ofEntries (entries : List NameEntry) : NameIndex :=
  entries.foldl add empty

/-- The number of different ids. -/
def size (index : NameIndex) : Nat := index.ids.size

def resolve (index : NameIndex) (input : String) : Option Int64 :=
  let input := Text.trim input
  if input.isEmpty then none
  else match Text.int64? input with
    | some id => if index.ids.contains id then some id else none
    | none => index.byName[Text.lowercase input]?

end NameIndex

end Compendium
