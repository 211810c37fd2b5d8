import Compendium.Database
import Compendium.Lookup.Index

/-!
# Compendium — lookups

A lookup answers from an index of names that is loaded once. It is uninitialized, loading or ready,
and only a ready lookup answers: asking any other is an error, never a silent miss. A load starts by
issuing one statement (`startLoad`) and ends when its answer is in (`finishLoad`) or when it is given
up (`abandonLoad`); `load` does both in one go. A load that fails or is given up leaves the lookup
uninitialized, so that it can be tried again; a ready lookup stays as it is.
-/

namespace Compendium

/-- Where a lookup's entries come from. -/
structure NameSource where
  table : String
  idColumn : String
  nameColumns : List String
  condition : Option String
deriving DecidableEq, Repr, Inhabited

inductive LookupError where
  | notReady (lookup : String)
  /-- Someone crashed while writing to the lookup. -/
  | poisoned (lookup : String)
  | load (lookup : String) (cause : DbError)
deriving DecidableEq, Repr

def LookupError.message : LookupError → String
  | notReady lookup => lookup ++ " lookup cache is not initialized"
  | poisoned lookup => lookup ++ " lookup cache lock is poisoned"
  | load lookup cause => "failed to load " ++ lookup ++ " lookup cache: " ++ cause.message

namespace NameSource

def statement (source : NameSource) : DbStatement where
  sql := "SELECT " ++ ", ".intercalate (source.idColumn :: source.nameColumns)
    ++ " FROM " ++ source.table
    ++ (match source.condition with
      | none => ""
      | some condition => " WHERE " ++ condition)
  values := none

/-- The id is required; names that are absent are left out. -/
def entry (source : NameSource) (row : Row) : Except DbError NameEntry := do
  let id ← row.int source.idColumn
  return ⟨id, source.nameColumns.filterMap row.text?⟩

/-- The entries of an answer, all of them or none. -/
def entries (source : NameSource) (answer : DbAnswer) : Except DbError (List NameEntry) := do
  let results ← answer
  results.rows.mapM source.entry

end NameSource

inductive LookupState where
  | uninitialized
  | loading
  | ready (index : NameIndex)
deriving Inhabited

inductive LookupStatus where
  | uninitialized
  | loading
  | ready
deriving DecidableEq, Repr

/-- A lookup without a source is filled by hand and needs no loading. -/
structure Lookup where
  name : String
  source : Option NameSource
  state : LookupState
deriving Inhabited

/-- What starting a load comes to: an outcome at once, or a statement whose answer is awaited. -/
inductive LoadStart where
  | settled (outcome : Except LookupError Nat)
  | querying (source : NameSource)

namespace Lookup

def unloaded (name : String) (source : NameSource) : Lookup :=
  ⟨name, some source, .uninitialized⟩

def ofEntries (name : String) (entries : List NameEntry) : Lookup :=
  ⟨name, none, .ready (.ofEntries entries)⟩

def status (l : Lookup) : LookupStatus :=
  match l.state with
  | .uninitialized => .uninitialized
  | .loading => .loading
  | .ready _ => .ready

def index (l : Lookup) : Except LookupError NameIndex :=
  match l.state with
  | .ready index => .ok index
  | _ => .error (.notReady l.name)

def size (l : Lookup) : Except LookupError Nat := l.index.map (·.size)

/-- The id of what was entered, if anything has that id or that name. -/
def resolve (l : Lookup) (input : String) : Except LookupError (Option Int64) :=
  l.index.map (·.resolve input)

/-! ## Loading -/

def startLoad (l : Lookup) : LoadStart × Lookup :=
  match l.source, l.state with
  | none, _ => (.settled l.size, l)
  | some _, .ready index => (.settled (.ok index.size), l)
  | some _, .loading => (.settled (.error (.notReady l.name)), l)
  | some source, .uninitialized => (.querying source, { l with state := .loading })

/-- Give up the load in flight. -/
def abandonLoad (l : Lookup) : Lookup :=
  match l.state with
  | .loading => { l with state := .uninitialized }
  | _ => l

/-- Take in the answer to the statement of the load in flight. -/
def finishLoad (l : Lookup) (source : NameSource) (answer : DbAnswer) :
    Except LookupError Nat × Lookup :=
  match source.entries answer with
  | .error cause => (.error (.load l.name cause), l.abandonLoad)
  | .ok entries =>
    let index := NameIndex.ofEntries entries
    (.ok index.size, { l with state := .ready index })

def load (l : Lookup) (session : Session) : Except LookupError Nat × Lookup × Session :=
  match l.startLoad with
  | (.settled outcome, l) => (outcome, l, session)
  | (.querying source, l) =>
    let (answer, session) := session.query source.statement
    let (outcome, l) := l.finishLoad source answer
    (outcome, l, session)

end Lookup

end Compendium
