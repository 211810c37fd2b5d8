import Compendium.Proofs.Http.Answers
import Compendium.Proofs.Listing.Accepted
import Compendium.Proofs.Paging.Ranges
import Compendium.Proofs.Paging.Windows
import Compendium.Proofs.Request.Readings

/-!
# Compendium — what a page reports

A page comes with a total and a Content-Range header. The database is told neither the page nor the
limit but a window, cut off at the largest signed word, and it tells the total in its rows alone. The
header is worked out again from the page, the limit and the total read off the first row.

* `Session.AnswersFrom` says that a database answers faithfully.
* `Pagination.length_window` is the one place where what the database was given and what was asked
  for meet: a page has as many rows as exact arithmetic says.
* `page_describes_its_rows` is the law for a single page, `pages_with_rows_report_one_total` for any
  two of them. A page past the last row has no row to read the total off, and reports 0
  (`total_is_lost_past_the_last_row`).
-/

namespace Compendium

/-! ## Faithful databases -/

/-- The row carries this total. -/
def Row.Carries (row : Row) (n : Nat) : Prop :=
  ∃ total : Int64, row.lookup totalCountColumn = some (.int total) ∧ total.toInt = n

/-- The session answers the statement from these rows: each of them carries how many there are, and
those in the window that the statement's last two values bind come back in order. -/
structure Session.AnswersFrom (session : Session) (rows : List Row) (statement : DbStatement) :
    Prop where
  total : ∀ row ∈ rows, row.Carries rows.length
  window : ∀ front limit offset, statement.values = some (front ++ [.int limit, .int offset]) →
    ∃ returned, (session.query statement).1 = .ok returned
      ∧ returned.rows = (rows.drop offset.toInt.toNat).take limit.toInt.toNat

/-- A page query ends in its limit and its offset, so a faithful database returns its window. -/
theorem Session.AnswersFrom.query_eq {session : Session} {rows : List Row} {q : PageQuery}
    (h : session.AnswersFrom rows q.statement) :
    ∃ returned, (session.query q.statement).1 = .ok returned ∧ returned.rows = q.window rows := by
  apply h.window
  show some q.values = _
  rw [PageQuery.values, PageQuery.fragment, Select.values_fragment]

/-- The last two values of a page query are its limit and its offset, so the window is its own. -/
theorem Session.AnswersFrom.of_window {session : Session} {rows : List Row} {q : PageQuery}
    {returned : ResultSet} (htotal : ∀ row ∈ rows, row.Carries rows.length)
    (h : (session.query q.statement).1 = .ok returned) (hwindow : returned.rows = q.window rows) :
    session.AnswersFrom rows q.statement := by
  refine ⟨htotal, fun front limit offset hvalues => ?_⟩
  have hfront : q.values = front ++ [.int limit, .int offset] := Option.some.inj hvalues
  have hquery : q.values = _ := q.select.values_fragment q.backend
  obtain ⟨-, hlast⟩ := List.append_inj' (hfront.symm.trans hquery) rfl
  cases hlast
  exact ⟨returned, h, hwindow⟩

/-- A total is a signed word, so there are no more rows than it can count. -/
theorem Session.AnswersFrom.length_le {session : Session} {rows : List Row} {statement : DbStatement}
    (h : session.AnswersFrom rows statement) : rows.length ≤ maxInt64 := by
  cases rows with
  | nil => exact Nat.zero_le _
  | cons row rest =>
    obtain ⟨total, -, htotal⟩ := h.total row List.mem_cons_self
    have hword : total.toInt < 2 ^ 63 := total.toInt_lt
    unfold maxInt64
    omega

/-! ## Rows of a page -/

/-- Cut off or not, the window of a page holds what exact arithmetic gives to the page. -/
theorem Pagination.length_window {G : Type} {q : PageQuery} {p : Pagination}
    (hlimit : q.select.limit = Word.toParam p.limit)
    (hoffset : q.select.offset = Word.toParam p.offset) {groups : List G}
    (hlength : groups.length ≤ maxInt64) :
    (q.window groups).length
      = min p.limit.toNat (groups.length - (p.page.toNat - 1) * p.limit.toNat) := by
  rw [PageQuery.window, List.length_take, List.length_drop, hlimit, hoffset, Word.toParam,
    Word.toParam, toInt_clampInt64, toInt_clampInt64, Int.toNat_natCast, Int.toNat_natCast,
    toNat_offset]
  -- no more rows than a signed word can count, so neither word has cut off anything that mattered
  have hwords : maxInt64 ≤ maxUInt64 := by decide
  generalize (p.page.toNat - 1) * p.limit.toNat = before
  omega

/-- The total of a page is read off its first row, and is 0 if there is none. -/
theorem exists_reportedTotal {rows : List Row} {n : Nat} (h : ∀ row ∈ rows, row.Carries n) :
    ∃ total, reportedTotal rows = .ok total ∧ total.toNat = if rows = [] then 0 else n := by
  cases rows with
  | nil => exact ⟨0, rfl, rfl⟩
  | cons row rest =>
    obtain ⟨total, hcell, htotal⟩ := h row List.mem_cons_self
    have hint : row.int totalCountColumn = .ok total := by
      rw [Row.int, hcell]
    refine ⟨clampUInt64 total.toInt.toNat, by rw [reportedTotal, hint]; rfl, ?_⟩
    -- a signed word is below the largest unsigned one, so nothing is cut off
    have hword : total.toInt < 2 ^ 63 := total.toInt_lt
    rw [if_neg (List.cons_ne_nil _ _), toNat_clampUInt64, htotal, Int.toNat_natCast, maxUInt64]
    omega

/-! ## Responses -/

/-- The names of resources have only characters that a header has room for. -/
theorem Resource.headerSafe_name (r : Resource) : headerSafe r.name = r.name := by
  cases r <;> decide

/-- The pairs read as a valid request, and the session answers its page query from the rows. -/
structure Service.ListsFrom (service : Service) (resource : Resource)
    (pairs : List (String × String)) (request : ListRequest) (session : Session)
    (rows : List Row) : Prop where
  read : service.read resource pairs = .ok request
  valid : request.errors = []
  backend : service.backend ≠ .postgres
  answers : ∀ query,
    (service.catalog.listing resource).pageQuery request service.backend = .ok query →
      session.AnswersFrom rows query.statement

namespace Service.ListsFrom

variable {service : Service} {resource : Resource} {pairs : List (String × String)}
  {request : ListRequest} {session : Session} {rows : List Row}

/-- What the response is made of. -/
theorem respond_eq (h : service.ListsFrom resource pairs request session rows) :
    ∃ query returned total,
      (service.catalog.listing resource).pageQuery request service.backend = .ok query
      ∧ (session.query query.statement).1 = .ok returned
      ∧ returned.rows.length = min request.pagination.limit.toNat
          (rows.length - (request.pagination.page.toNat - 1) * request.pagination.limit.toNat)
      ∧ total.toNat = (if returned.rows = [] then 0 else rows.length)
      ∧ (service.respond resource pairs session).1
        = .ofPage (contentRange request.pagination.offset request.pagination.limit total
              resource.name)
            ⟨request.pagination.page, request.pagination.limit, total,
              returned.without totalCountColumn⟩ := by
  have hvalid : request.isValid = true := List.isEmpty_iff.2 h.valid
  have hquery : (service.catalog.listing resource).pageQuery request service.backend = .ok _ :=
    Listing.pageQuery_of_isValid hvalid h.backend
  have hplan := plan_of_isValid h.read hvalid
  rw [hquery] at hplan
  generalize hq : (⟨(service.catalog.listing resource).select request, service.backend,
    request.alternate⟩ : PageQuery) = query at hquery hplan
  obtain ⟨returned, hreturned, hwindow⟩ := (h.answers query hquery).query_eq
  -- the rows that come back are some of those that the total is right for
  have hcells : ∀ row ∈ returned.rows, row.Carries rows.length := fun row hrow =>
    (h.answers query hquery).total row
      (List.mem_of_mem_drop (List.mem_of_mem_take (hwindow ▸ hrow)))
  obtain ⟨total, htotal, hnat⟩ := exists_reportedTotal hcells
  have hlength : rows.length ≤ maxInt64 := (h.answers query hquery).length_le
  refine ⟨query, returned, total, hquery, hreturned, ?_, hnat, ?_⟩
  · -- the window that was sent is the one of the page that was asked for
    subst hq
    rw [hwindow]
    exact Pagination.length_window rfl rfl hlength
  · have hpage : Page.ofAnswer request.pagination (session.query query.statement).1
        = .ok ⟨request.pagination.page, request.pagination.limit, total, returned⟩ := by
      rw [hreturned]
      show (reportedTotal returned.rows >>= fun total => _) = _
      rw [htotal]
      rfl
    have hplan : service.plan resource pairs = .ok (request, query) := hplan
    simp only [respond, list, hplan, PageQuery.fetch, PageQuery.fetchRows, hpage]
    rfl

/-- A session with the right rows in store. -/
theorem ofAnswers (hread : service.read resource pairs = .ok request)
    (hvalid : request.errors = []) (hbackend : service.backend ≠ .postgres)
    (htotal : ∀ row ∈ rows, row.Carries rows.length)
    {returned : ResultSet}
    (hreturned : (rows.drop (Word.toParam request.pagination.offset).toInt.toNat).take
      (Word.toParam request.pagination.limit).toInt.toNat = returned.rows) :
    service.ListsFrom resource pairs request (.ofAnswers [.ok returned]) rows := by
  refine ⟨hread, hvalid, hbackend, fun query hquery => ?_⟩
  refine Session.AnswersFrom.of_window htotal rfl ?_
  have hvalid : request.isValid = true := List.isEmpty_iff.2 hvalid
  rw [Listing.pageQuery_of_isValid hvalid hbackend] at hquery
  cases hquery
  exact hreturned.symm

end Service.ListsFrom

/-- The response to a valid request has the rows that the database returns, in order and without
their totals. If there are any, the total is the number of all rows, and the header says which of
them they are; if there are none, it repeats the total alone. -/
theorem page_describes_its_rows {service : Service} {resource : Resource}
    {pairs : List (String × String)} {request : ListRequest} {session : Session} {rows : List Row}
    (h : service.ListsFrom resource pairs request session rows) :
    ∃ query returned total range,
      (service.catalog.listing resource).pageQuery request service.backend = .ok query
      ∧ (session.query query.statement).1 = .ok returned
      ∧ (service.respond resource pairs session).1
        = .ofPage range ⟨request.pagination.page, request.pagination.limit, total,
            returned.without totalCountColumn⟩
      ∧ (returned.rows ≠ [] → total.toNat = rows.length ∧ ∃ last,
        last + 1 = (request.pagination.page.toNat - 1) * request.pagination.limit.toNat
            + returned.rows.length
          ∧ range = resource.name ++ " "
            ++ toString ((request.pagination.page.toNat - 1) * request.pagination.limit.toNat)
            ++ "-" ++ toString last ++ "/" ++ toString rows.length)
      ∧ (returned.rows = [] → range = resource.name ++ " */" ++ toString total.toNat) := by
  obtain ⟨query, returned, total, hquery, hreturned, hlength, htotal, hrespond⟩ := h.respond_eq
  refine ⟨query, returned, total, _, hquery, hreturned, hrespond, fun hne => ?_, fun hnil => ?_⟩
  · rw [if_neg hne] at htotal
    rw [← htotal] at hlength
    obtain ⟨last, hlast, hrange⟩ := contentRange_of_items resource.name hlength
      (List.length_pos_iff.2 hne)
    refine ⟨htotal, last, hlast, ?_⟩
    rw [hrange, resource.headerSafe_name, htotal]
  · rw [if_pos hnil] at htotal
    -- without rows the total is 0, which no offset is before
    have hle : total ≤ request.pagination.offset := by
      rw [UInt64.le_iff_toNat_le]
      omega
    rw [contentRange_of_le hle, resource.headerSafe_name]

/-- A request without its page, and with its maps as lists. -/
structure ListRequest.Content where
  values : List (String × FilterValue)
  quantifiers : List (String × Quantifier)
  search : Option ColumnSearch
  sort : SortChoice
  errors : List ParamError
  alternate : Bool
deriving DecidableEq

def ListRequest.content (r : ListRequest) : Content :=
  ⟨r.selection.values.toList, r.selection.quantifiers.toList, r.selection.search, r.sort, r.errors,
    r.alternate⟩

/-- Two requests with the same content differ in their pages alone. -/
theorem ListRequest.eq_atPage_of_content {request request' : ListRequest}
    (h : request'.content = request.content) :
    request' = request.atPage request'.pagination.page request'.pagination.limit := by
  obtain ⟨⟨⟨values, _⟩, ⟨quantifiers, _⟩, search⟩, pagination, sort, errors, alternate⟩ := request
  obtain ⟨⟨⟨values', _⟩, ⟨quantifiers', _⟩, search'⟩, pagination', sort', errors', alternate'⟩ :=
    request'
  cases h
  rfl

/-- What the pairs read as without lookups. -/
def Resource.contentOf (resource : Resource) (pairs : List (String × String)) :
    Option (ListRequest.Content × Pagination) :=
  resource.declaration.build.toOption.bind fun listing =>
    (listing.readRequest ⟨[]⟩ (.ofPairs pairs)).toOption.map fun request =>
      (request.content, request.pagination)

/-- What has been evaluated of a resource without lookups is what a service without lookups reads.
-/
theorem Catalog.read_of_contentOf {catalog : Catalog} (hbuild : build = .ok catalog)
    {resource : Resource} {pairs : List (String × String)} {request : ListRequest}
    {page limit : UInt64}
    (h : resource.contentOf pairs = some (request.content, ⟨page, limit⟩)) :
    (Service.mk catalog ⟨[]⟩ .sqlite).read resource pairs = .ok (request.atPage page limit) := by
  rw [Resource.contentOf, build_declaration hbuild resource] at h
  obtain ⟨request', hread, hcontent⟩ := Option.map_eq_some_iff.1 h
  obtain ⟨hcontent, hpagination⟩ := Prod.mk.inj hcontent
  rw [Service.read, toOption_eq_some_iff.1 hread, ListRequest.eq_atPage_of_content hcontent,
    hpagination]

/-- Races that have an elf in their name. -/
def Races.elves : ListRequest where
  selection := Selection.empty.setValue "race_name" (.single (.text (containsPattern "elf")))
  pagination := ⟨1, standardLimit⟩
  sort := ⟨"race_name", .ascending⟩
  errors := []
  alternate := false

def Races.rows (names : List String) (total : Int64) : List Row :=
  names.map fun name => [("race_name", .text name), (totalCountColumn, .int total)]

theorem Races.rows_ofRows_rows (names : List String) (total : Int64) :
    (ResultSet.ofRows (rows names total)).rows = rows names total := by
  apply ResultSet.rows_ofRows
  intro row hrow
  obtain ⟨name, -, rfl⟩ := List.mem_map.1 hrow
  have hnames : ["race_name", totalCountColumn].Nodup := by decide
  exact hnames

/-- The right answer to a request for a page of the elves. -/
theorem Races.listsFrom_elves {catalog : Catalog} (hbuild : Catalog.build = .ok catalog)
    {pairs : List (String × String)} {page limit : UInt64}
    (hcontent : Resource.races.contentOf pairs = some (elves.content, ⟨page, limit⟩))
    (names : List String) (total : Int64) (htotal : total.toInt = names.length)
    {returned : List String}
    (hreturned : (names.drop (Word.toParam (Pagination.mk page limit).offset).toInt.toNat).take
      (Word.toParam limit).toInt.toNat = returned) :
    (Service.mk catalog ⟨[]⟩ .sqlite).ListsFrom .races pairs (elves.atPage page limit)
      (.ofAnswers [.ok (rows returned total)]) (rows names total) := by
  have hbackend : Backend.sqlite ≠ .postgres := by decide
  refine .ofAnswers (Catalog.read_of_contentOf hbuild hcontent) rfl hbackend ?_ ?_
  · intro row hrow
    obtain ⟨name, -, rfl⟩ := List.mem_map.1 hrow
    refine ⟨total, rfl, ?_⟩
    rw [htotal, rows, List.length_map]
  · rw [rows_ofRows_rows, rows, rows, ← hreturned, List.map_take, List.map_drop]
    rfl

/-- One elf a page: the second page has the second of two. -/
theorem page_describes_its_rows_second_elf :
    ∃ catalog, Catalog.build = .ok catalog
      ∧ ((Service.mk catalog ⟨[]⟩ .sqlite).respond .races
          [("race_name", "elf"), ("page", "2"), ("limit", "1")]
          (.ofAnswers [.ok (Races.rows ["Half-elf"] 2)])).1
        = .ofPage "races 1-1/2" ⟨2, 1, 2, .ofRows [[("race_name", .text "Half-elf")]]⟩ := by
  obtain ⟨catalog, hbuild⟩ := Catalog.exists_build
  refine ⟨catalog, hbuild, ?_⟩
  have hcontent : Resource.races.contentOf [("race_name", "elf"), ("page", "2"), ("limit", "1")]
      = some (Races.elves.content, ⟨2, 1⟩) := by decide +kernel
  have hlists := Races.listsFrom_elves hbuild hcontent ["Elf", "Half-elf"] 2 rfl rfl
  obtain ⟨query, returned, total, range, -, hreturned, hrespond, hitems, -⟩ :=
    page_describes_its_rows hlists
  cases hreturned
  obtain ⟨htotal, last, hlast, hrange⟩ := hitems (List.cons_ne_nil _ _)
  have htotal : total = 2 := UInt64.toNat_inj.1 htotal
  have hlast : last = 1 := Nat.succ.inj hlast
  rw [htotal, hrange, hlast] at hrespond
  exact hrespond

/-! ## Totals of pages -/

/-- The body and the complete length in the header report the same total. -/
structure Http.Response.Reports (r : Http.Response) (name : String) (total : Nat) : Prop where
  body : ∃ page, r.body = .page page ∧ page.total.toNat = total
  length : ∃ items, (items = "*" ∨ ∃ first last : Nat, items = toString first ++ "-" ++ toString last)
    ∧ r.contentRange = some (name ++ " " ++ items ++ "/" ++ toString total)

/-- A page and the header that is worked out from its total report the same. The header has a range
if the page begins before the total, and a star if it does not. -/
theorem Http.Response.reports_ofPage {offset limit total : UInt64} {name : String} {page : Page}
    (hname : headerSafe name = name) (htotal : page.total = total) :
    (ofPage (Compendium.contentRange offset limit total name) page).Reports name total.toNat := by
  refine ⟨⟨page, rfl, by rw [htotal]⟩, ?_⟩
  by_cases hle : total ≤ offset
  · refine ⟨"*", .inl rfl, ?_⟩
    show some _ = some _
    rw [contentRange_of_le hle, hname]
    simp only [String.append_assoc]
    rfl
  · have hlt : offset.toNat < total.toNat := by
      rw [UInt64.le_iff_toNat_le] at hle
      omega
    refine ⟨toString offset.toNat ++ "-"
      ++ toString (min (offset.toNat + limit.toNat) total.toNat - 1), .inr ⟨_, _, rfl⟩, ?_⟩
    show some _ = some _
    rw [contentRange_of_lt hlt, hname]
    simp only [String.append_assoc]

/-- A response reports one total, the one in its body. -/
theorem Http.Response.Reports.total_unique {r : Http.Response} {name name' : String} {n n' : Nat}
    (h : r.Reports name n) (h' : r.Reports name' n') : n = n' := by
  obtain ⟨page, hpage, rfl⟩ := h.body
  obtain ⟨page', hpage', rfl⟩ := h'.body
  rw [hpage] at hpage'
  cases hpage'
  rfl

namespace Service.ListsFrom

variable {service : Service} {resource : Resource} {pairs : List (String × String)}
  {request : ListRequest} {session : Session} {rows : List Row}

/-- A page that begins among the rows reports how many there are. -/
theorem reports_length (h : service.ListsFrom resource pairs request session rows)
    (hlimit : 1 ≤ request.pagination.limit)
    (hrows : rows.length = 0
      ∨ (request.pagination.page.toNat - 1) * request.pagination.limit.toNat < rows.length) :
    (service.respond resource pairs session).1.Reports resource.name rows.length := by
  obtain ⟨query, returned, total, -, -, hlength, htotal, hrespond⟩ := h.respond_eq
  have hnat : total.toNat = rows.length := by
    rw [htotal]
    rcases hrows with hnil | hlt
    · rw [hnil, ite_self]
    · have hlimit : 1 ≤ request.pagination.limit.toNat := UInt64.le_iff_toNat_le.1 hlimit
      -- a page that begins among the rows has at least the one that it begins with
      have hpos : 0 < returned.rows.length := by omega
      exact if_neg (List.length_pos_iff.1 hpos)
  rw [hrespond, ← hnat]
  exact Http.Response.reports_ofPage resource.headerSafe_name rfl

/-- A page that begins after the last row has nothing to read the total off. -/
theorem reports_zero (h : service.ListsFrom resource pairs request session rows)
    (hpast : rows.length
      ≤ (request.pagination.page.toNat - 1) * request.pagination.limit.toNat) :
    (service.respond resource pairs session).1.Reports resource.name 0 := by
  obtain ⟨query, returned, total, -, -, hlength, htotal, hrespond⟩ := h.respond_eq
  have hnil : returned.rows.length = 0 := by omega
  have hnat : total.toNat = 0 := by
    rw [htotal]
    exact if_pos (List.length_eq_zero_iff.1 hnil)
  rw [hrespond, ← hnat]
  exact Http.Response.reports_ofPage resource.headerSafe_name rfl

end Service.ListsFrom

/-- Of `n` rows, each of two pages of one request that does not begin past the last row reports `n`, in
the body and in the header, and so does the first page of nothing. A page past the last row has no
row to read the total off, and reports 0. -/
theorem pages_with_rows_report_one_total {service : Service} {resource : Resource}
    (haccepted : (service.catalog.listing resource).Accepted) {request : ListRequest}
    {pairs pairs' : List (String × String)} {page limit page' limit' : UInt64}
    {session session' : Session} {rows rows' : List Row} {n : Nat}
    (h : service.ListsFrom resource pairs (request.atPage page limit) session rows)
    (h' : service.ListsFrom resource pairs' (request.atPage page' limit') session' rows')
    (hlength : rows.length = n) (hlength' : rows'.length = n) :
    (n = 0 ∨ (page.toNat - 1) * limit.toNat < n →
      n = 0 ∨ (page'.toNat - 1) * limit'.toNat < n →
        (service.respond resource pairs session).1.Reports resource.name n
        ∧ (service.respond resource pairs' session').1.Reports resource.name n)
    ∧ (n ≤ (page.toNat - 1) * limit.toNat →
      (service.respond resource pairs session).1.Reports resource.name 0) := by
  -- no request that can be read asks for a page of length 0
  have hlimit : 1 ≤ limit :=
    (Listing.one_le_pagination_of_readRequest haccepted.one_le_defaultLimit h.read).2
  have hlimit' : 1 ≤ limit' :=
    (Listing.one_le_pagination_of_readRequest haccepted.one_le_defaultLimit h'.read).2
  refine ⟨fun hpage hpage' => ⟨?_, ?_⟩, fun hpast => ?_⟩
  · subst hlength
    exact h.reports_length hlimit hpage
  · subst hlength'
    exact h'.reports_length hlimit' hpage'
  · subst hlength
    exact h.reports_zero hpast

/-- Two elves, one a page: both pages tell of two. -/
theorem pages_with_rows_report_one_total_elves :
    ∃ catalog, Catalog.build = .ok catalog
      ∧ let service := Service.mk catalog ⟨[]⟩ .sqlite
        let first := service.respond .races [("race_name", "elf"), ("limit", "1")]
          (.ofAnswers [.ok (Races.rows ["Elf"] 2)])
        let second := service.respond .races [("race_name", "elf"), ("page", "2"), ("limit", "1")]
          (.ofAnswers [.ok (Races.rows ["Half-elf"] 2)])
        first.1.Reports "races" 2 ∧ second.1.Reports "races" 2 := by
  obtain ⟨catalog, hbuild⟩ := Catalog.exists_build
  have hfirst : Resource.races.contentOf [("race_name", "elf"), ("limit", "1")]
      = some (Races.elves.content, ⟨1, 1⟩) := by decide +kernel
  have hsecond : Resource.races.contentOf [("race_name", "elf"), ("page", "2"), ("limit", "1")]
      = some (Races.elves.content, ⟨2, 1⟩) := by decide +kernel
  refine ⟨catalog, hbuild, ?_⟩
  have haccepted : (catalog.listing .races).Accepted := ⟨_, Catalog.build_declaration hbuild .races⟩
  have hlists := Races.listsFrom_elves hbuild hfirst ["Elf", "Half-elf"] 2 rfl rfl
  have hlists' := Races.listsFrom_elves hbuild hsecond ["Elf", "Half-elf"] 2 rfl rfl
  exact (pages_with_rows_report_one_total haccepted hlists hlists' rfl rfl).1 (.inr (by decide))
    (.inr (by decide))

/-- There is one elf. The first page says so, and the second, which has no rows, says that there is
none. -/
theorem total_is_lost_past_the_last_row :
    ∃ catalog, Catalog.build = .ok catalog
      ∧ let service := Service.mk catalog ⟨[]⟩ .sqlite
        let first := [("race_name", "elf")]
        let second := [("race_name", "elf"), ("page", "2")]
        let found := Session.ofAnswers [.ok (Races.rows ["Elf"] 1)]
        let empty := Session.ofAnswers [.ok (Races.rows [] 1)]
        service.ListsFrom .races first (Races.elves.atPage 1 20) found (Races.rows ["Elf"] 1)
        ∧ service.ListsFrom .races second (Races.elves.atPage 2 20) empty (Races.rows ["Elf"] 1)
        ∧ (service.respond .races first found).1.Reports "races" 1
        ∧ ¬(service.respond .races second empty).1.Reports "races" 1 := by
  obtain ⟨catalog, hbuild⟩ := Catalog.exists_build
  have hfirst : Resource.races.contentOf [("race_name", "elf")]
      = some (Races.elves.content, ⟨1, 20⟩) := by decide +kernel
  have hsecond : Resource.races.contentOf [("race_name", "elf"), ("page", "2")]
      = some (Races.elves.content, ⟨2, 20⟩) := by decide +kernel
  have hlists := Races.listsFrom_elves hbuild hfirst ["Elf"] 1 rfl rfl
  have hlists' := Races.listsFrom_elves hbuild hsecond ["Elf"] 1 rfl rfl
  refine ⟨catalog, hbuild, hlists, hlists', ?_, fun hone => ?_⟩
  · exact hlists.reports_length (by decide) (.inr (by decide))
  · -- the second page begins behind the only row, and a response cannot report two totals
    have hzero := hlists'.reports_zero (by decide)
    exact absurd (hone.total_unique hzero) (by decide)

end Compendium
