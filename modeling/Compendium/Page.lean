import Compendium.Database
import Compendium.Statement.PageQuery

/-!
# Compendium — pages of results

Running a page query. Every row carries the number of all matching groups, and the page takes its
total from the first one; a page without rows has total 0.
-/

namespace Compendium

structure Page where
  page : UInt64
  limit : UInt64
  total : UInt64
  results : ResultSet
deriving DecidableEq, Repr

/-- A negative count reads as 0. -/
def reportedTotal : List Row → Except DbError UInt64
  | [] => .ok 0
  | row :: _ => (row.int totalCountColumn).map fun n => clampUInt64 n.toInt.toNat

namespace Page

/-- The page that an answer gives. A row is listed as an object with the values of its cells, which
does not fail whatever they are; so only the answer and its total can keep the page from being
made. -/
def ofAnswer (pagination : Pagination) (answer : DbAnswer) : Except DbError Page := do
  let results ← answer
  let total ← reportedTotal results.rows
  return ⟨pagination.page, pagination.limit, total, results⟩

/-- The rows as they are listed. -/
def withoutTotals (page : Page) : Page :=
  { page with results := page.results.without totalCountColumn }

end Page

namespace PageQuery

/-- Send the query; the rows keep their totals. -/
def fetchRows (query : PageQuery) (pagination : Pagination) (session : Session) :
    Except DbError Page × Session :=
  let (answer, session) := session.query query.statement
  (Page.ofAnswer pagination answer, session)

def fetch (query : PageQuery) (pagination : Pagination) (session : Session) :
    Except DbError Page × Session :=
  let (page, session) := query.fetchRows pagination session
  (page.map Page.withoutTotals, session)

end PageQuery

end Compendium
