import Compendium.Entity.Catalog
import Compendium.Http.Response
import Compendium.Http.Target
import Compendium.Text.FormData

/-!
# Compendium — the list service

One path per resource. A request is read, refused with all its mistakes if it has any, turned into a
query, and answered with the page that the query gives and a header that says which items it holds.
So at most one statement is issued, and none for a request that is not valid (`Service.list`).
-/

namespace Compendium

structure Service where
  catalog : Catalog
  lookups : LookupSet
  backend : Backend

namespace Service

/-- The request and its query, or why there is none. -/
def plan (service : Service) (resource : Resource) (pairs : List (String × String)) :
    Except Failure (ListRequest × PageQuery) := do
  let listing := service.catalog.listing resource
  let request ← (listing.readRequest service.lookups (.ofPairs pairs)).mapError
    fun e => .ofQueryFailure (.lookup e)
  if !request.isValid then
    throw (.ofParamErrors request.errors)
  let query ← (listing.pageQuery request service.backend).mapError .ofQueryFailure
  return (request, query)

/-- A page of a resource, with its Content-Range header. -/
def list (service : Service) (resource : Resource) (pairs : List (String × String))
    (session : Session) : Except Failure (String × Page) × Session :=
  match service.plan resource pairs with
  | .error e => (.error e, session)
  | .ok (request, query) =>
    match query.fetch request.pagination session with
    | (.error cause, session) => (.error (.ofDbError cause), session)
    | (.ok page, session) =>
      let range := contentRange request.pagination.offset request.pagination.limit page.total
        resource.name
      (.ok (range, page), session)

def respond (service : Service) (resource : Resource) (pairs : List (String × String))
    (session : Session) : Http.Response × Session :=
  match service.list resource pairs session with
  | (.error e, session) => (.ofFailure e, session)
  | (.ok (range, page), session) => (.ofPage range page, session)

/-- Paths match to the letter. `HEAD` runs the query and answers without the page. -/
def handle (service : Service) (method : String) (target : Http.Target) (session : Session) :
    Http.Response × Session :=
  match Resource.ofPath? target.path with
  | none => (.notFound, session)
  | some resource =>
    if method = "GET" then service.respond resource (Text.formPairs target.query) session
    else if method = "HEAD" then
      let (response, session) := service.respond resource (Text.formPairs target.query) session
      (response.withoutBody, session)
    else (.methodNotAllowed, session)

end Service

end Compendium
