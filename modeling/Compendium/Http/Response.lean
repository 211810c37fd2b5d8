import Compendium.Http.Failure
import Compendium.Page

/-!
# Compendium — HTTP responses

Status, headers and body of what the list service answers. A body stays a value of the domain; how
it is written as JSON is not decided here.
-/

namespace Compendium.Http

inductive Body where
  | empty
  | page (page : Page)
  | failure (error : String) (details : Option (List String))
deriving DecidableEq, Repr

structure Response where
  status : Nat
  contentRange : Option String
  contentType : Option String
  allow : Option String
  body : Body
deriving DecidableEq, Repr

namespace Response

def json : String := "application/json"

def ofPage (contentRange : String) (page : Page) : Response :=
  ⟨200, some contentRange, some json, none, .page page⟩

def ofFailure (e : Failure) : Response :=
  ⟨e.status, none, some json, none, .failure e.publicMessage e.details⟩

def notFound : Response := ⟨404, none, none, none, .empty⟩

def methodNotAllowed : Response := ⟨405, none, none, some "GET,HEAD", .empty⟩

/-- The headers alone. -/
def withoutBody (r : Response) : Response := { r with body := .empty }

end Response

end Compendium.Http
