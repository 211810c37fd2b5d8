import Compendium.Http.Service
import Compendium.Proofs.Fallible

/-!
# Compendium — what a list request is answered

A list request passes five stages that can each end it: it is read, its mistakes are told, the query
is made, the statement is run, and the total is read off the rows. The statement is the only thing
that touches the database, and it is issued after all that can be known without it.

* The `Service.plan_of_…` lemmas say what a request comes to before the database.
* The `Service.respond_of_…` lemmas say what each way of ending is answered with.
* `respond_issues_at_most_one_statement` puts the stages in their order.
-/

namespace Compendium

/-- The statement has succeeded and its first row, if it has rows, carries the total. -/
def DbAnswer.hasTotal : DbAnswer → Bool
  | .error _ => false
  | .ok ⟨[], _⟩ => true
  | .ok ⟨row :: _, _⟩ =>
    match row.lookup totalCountColumn with
    | some (.int _) => true
    | _ => false

/-- A failure to look something up is never the client's. -/
theorem Failure.status_ofQueryFailure_lookup (e : LookupError) :
    (ofQueryFailure (.lookup e)).status = 500 := by
  cases e <;> rfl

/-- A page is made of an answer exactly if the total can be read off it. -/
theorem Page.isOk_ofAnswer (pagination : Pagination) (answer : DbAnswer) :
    (Page.ofAnswer pagination answer).isOk = answer.hasTotal := by
  match answer with
  | .error e => rfl
  | .ok ⟨[], _⟩ => rfl
  | .ok ⟨row :: rows, _⟩ =>
    unfold DbAnswer.hasTotal
    -- whether there is a cell, and whether it holds an integer
    rcases hcell : row.lookup totalCountColumn with _ | (_ | _ | n | _) <;>
      simp [Page.ofAnswer, reportedTotal, Row.int, hcell, bind, Except.bind, Except.map,
        Except.isOk, Except.toBool, pure, Except.pure]

namespace Service

variable {service : Service} {resource : Resource} {pairs : List (String × String)}
  {session : Session} {request : ListRequest}

/-! ## Before the database -/

/-- What a request reads as for a service. -/
def read (service : Service) (resource : Resource) (pairs : List (String × String)) :
    Except LookupError ListRequest :=
  (service.catalog.listing resource).readRequest service.lookups (.ofPairs pairs)

/-- Whether a request has mistakes comes before whether the backend can answer it. -/
theorem plan_eq (service : Service) (resource : Resource) (pairs : List (String × String)) :
    service.plan resource pairs
      = (service.read resource pairs).mapError (fun e => Failure.ofQueryFailure (.lookup e))
        >>= fun request =>
          if !request.isValid then .error (.ofParamErrors request.errors)
          else ((service.catalog.listing resource).pageQuery request service.backend).mapError
            Failure.ofQueryFailure >>= fun query => .ok (request, query) := rfl

/-- A request that cannot be read has no plan. -/
theorem plan_of_read_eq_error {e : LookupError} (h : service.read resource pairs = .error e) :
    service.plan resource pairs = .error (.ofQueryFailure (.lookup e)) := by
  rw [plan_eq, h]
  rfl

/-- A request with mistakes has no plan, and all of them are the reason. -/
theorem plan_of_not_isValid (h : service.read resource pairs = .ok request)
    (hvalid : request.isValid = false) :
    service.plan resource pairs = .error (.ofParamErrors request.errors) := by
  rw [plan_eq, h]
  show (if !request.isValid then _ else _) = _
  rw [hvalid]
  rfl

/-- Without mistakes the plan stands or falls with the query. -/
theorem plan_of_isValid (h : service.read resource pairs = .ok request)
    (hvalid : request.isValid = true) :
    service.plan resource pairs
      = ((service.catalog.listing resource).pageQuery request service.backend).mapError
          Failure.ofQueryFailure >>= fun query => .ok (request, query) := by
  rw [plan_eq, h]
  show (if !request.isValid then _ else _) = _
  rw [hvalid]
  rfl

/-! ## What is answered -/

/-- Without a plan the failure is the answer, and the session is not touched. -/
theorem respond_of_plan_eq_error {e : Failure} (h : service.plan resource pairs = .error e) :
    service.respond resource pairs session = (.ofFailure e, session) := by
  simp only [respond, list, h]

/-- With a plan the statement is sent, and the status is up to the database. -/
theorem respond_of_plan_eq_ok (session : Session) {query : PageQuery}
    (h : service.plan resource pairs = .ok (request, query)) :
    (service.respond resource pairs session).2 = (session.query query.statement).2
      ∧ (service.respond resource pairs session).1.status
        = if (session.query query.statement).1.hasTotal then 200 else 500 := by
  -- the answer is a page exactly if it has a total, and the status says which it is
  rw [← Page.isOk_ofAnswer request.pagination]
  simp only [respond, list, h, PageQuery.fetch, PageQuery.fetchRows]
  cases Page.ofAnswer request.pagination (session.query query.statement).1 with
  | error cause => exact ⟨rfl, rfl⟩
  | ok page => exact ⟨rfl, rfl⟩

/-- A lookup that is not ready is not the client's fault. -/
theorem respond_of_read_eq_error {e : LookupError} (h : service.read resource pairs = .error e) :
    (service.respond resource pairs session).1.status = 500
      ∧ (service.respond resource pairs session).2 = session := by
  rw [respond_of_plan_eq_error (plan_of_read_eq_error h)]
  exact ⟨Failure.status_ofQueryFailure_lookup e, rfl⟩

/-- All mistakes are told, one by one and together. -/
theorem respond_of_errors (h : service.read resource pairs = .ok request)
    (hmistakes : request.errors ≠ []) :
    (service.respond resource pairs session).1.status = 400
      ∧ (service.respond resource pairs session).2 = session
      ∧ (service.respond resource pairs session).1.body
        = .failure ("; ".intercalate (request.errors.map ParamError.message))
            (some (request.errors.map ParamError.message)) := by
  have hvalid : request.isValid = false := List.isEmpty_eq_false_iff.2 hmistakes
  rw [respond_of_plan_eq_error (plan_of_not_isValid h hvalid)]
  exact ⟨rfl, rfl, rfl⟩

/-- On a backend without question marks nothing is sent, and the client is not to blame. -/
theorem respond_of_postgres (h : service.read resource pairs = .ok request)
    (hnone : request.errors = []) (hpostgres : service.backend = .postgres) :
    (service.respond resource pairs session).1.status = 500
      ∧ (service.respond resource pairs session).2 = session := by
  have hvalid : request.isValid = true := List.isEmpty_iff.2 hnone
  have hplan : service.plan resource pairs
      = .error (.ofQueryFailure (.unsupportedBackend .postgres)) := by
    rw [plan_of_isValid h hvalid, hpostgres, Listing.pageQuery_postgres hvalid]
    rfl
  rw [respond_of_plan_eq_error hplan]
  exact ⟨rfl, rfl⟩

/-- A request without mistakes sends its own query and nothing else. -/
theorem respond_of_backend (session : Session) (h : service.read resource pairs = .ok request)
    (hnone : request.errors = []) (hbackend : service.backend ≠ .postgres) :
    ∃ query, (service.catalog.listing resource).pageQuery request service.backend = .ok query
      ∧ (service.respond resource pairs session).2.issued
        = session.issued ++ [⟨query.sql, some query.values⟩]
      ∧ (service.respond resource pairs session).1.status
        = if (session.query query.statement).1.hasTotal then 200 else 500 := by
  have hvalid : request.isValid = true := List.isEmpty_iff.2 hnone
  have hquery : (service.catalog.listing resource).pageQuery request service.backend = .ok _ :=
    Listing.pageQuery_of_isValid hvalid hbackend
  have hplan := plan_of_isValid h hvalid
  rw [hquery] at hplan
  obtain ⟨hsession, hstatus⟩ := respond_of_plan_eq_ok session hplan
  refine ⟨_, hquery, ?_, hstatus⟩
  rw [hsession]
  rfl

end Service

/-- A request that cannot be read is answered 500, one with mistakes is answered 400 with all of
them, and one that the backend has no query for is answered 500, in this order and without a
statement. Any other request issues its query and nothing else, and is answered 200 if that succeeds
and its first row carries the total, and 500 otherwise. -/
theorem respond_issues_at_most_one_statement (service : Service) (resource : Resource)
    (pairs : List (String × String)) (session : Session) :
    let answered := service.respond resource pairs session
    match service.read resource pairs with
    | .error _ => answered.1.status = 500 ∧ answered.2 = session
    | .ok request =>
      (request.errors ≠ [] →
        answered.1.status = 400 ∧ answered.2 = session
        ∧ answered.1.body = .failure ("; ".intercalate (request.errors.map ParamError.message))
            (some (request.errors.map ParamError.message)))
      ∧ (request.errors = [] → service.backend = .postgres →
        answered.1.status = 500 ∧ answered.2 = session)
      ∧ (request.errors = [] → service.backend ≠ .postgres →
        ∃ query, (service.catalog.listing resource).pageQuery request service.backend = .ok query
          ∧ answered.2.issued = session.issued ++ [⟨query.sql, some query.values⟩]
          ∧ answered.1.status
            = if (session.query query.statement).1.hasTotal then 200 else 500) := by
  intro answered
  cases hread : service.read resource pairs with
  | error e => exact Service.respond_of_read_eq_error hread
  | ok request =>
    refine ⟨fun hmistakes => ?_, fun hnone hpostgres => ?_, fun hnone hbackend => ?_⟩
    · exact Service.respond_of_errors hread hmistakes
    · exact Service.respond_of_postgres hread hnone hpostgres
    · exact Service.respond_of_backend session hread hnone hbackend

/-- What is wrong with a request, read by a service without lookups; `none` if it cannot be read. -/
def Catalog.errorsWithoutLookups (resource : Resource) (pairs : List (String × String)) :
    Option (List ParamError) :=
  build.toOption.bind fun catalog =>
    ((Service.mk catalog ⟨[]⟩ .sqlite).read resource pairs).toOption.map (·.errors)

/-- What has been evaluated of a request without lookups is what every service without lookups
reads. -/
theorem Catalog.exists_read {resource : Resource} {pairs : List (String × String)}
    {errors : List ParamError} (h : errorsWithoutLookups resource pairs = some errors) :
    ∃ catalog, build = .ok catalog ∧ ∀ backend, ∃ request,
      (Service.mk catalog ⟨[]⟩ backend).read resource pairs = .ok request
        ∧ request.errors = errors := by
  obtain ⟨catalog, request, hbuild, hread, herrors⟩ := exists_of_bind_map_toOption h
  exact ⟨catalog, hbuild, fun _ => ⟨request, hread, herrors⟩⟩

/-- One elf is found with one statement, though not on a backend without question marks, and a
request with two mistakes is told of both. -/
theorem respond_issues_at_most_one_statement_races :
    let session := Session.ofAnswers
      [.ok (.ofRows [[("race_name", .text "Elf"), ("total_count", .int 1)]])]
    (∃ catalog, Catalog.build = .ok catalog
      ∧ (let found :=
          (Service.mk catalog ⟨[]⟩ .sqlite).respond .races [("race_name", "elf")] session
        found.1.status = 200 ∧ found.2.issued.length = 1)
      ∧ (let found :=
          (Service.mk catalog ⟨[]⟩ .postgres).respond .races [("race_name", "elf")] session
        found.1.status = 500 ∧ found.2 = session))
    ∧ ∃ catalog, Catalog.build = .ok catalog
      ∧ let refused := (Service.mk catalog ⟨[]⟩ .postgres).respond .races
          [("colour", "red"), ("race_speed", "fast")] session
        refused.1.status = 400 ∧ refused.2 = session
          ∧ refused.1.body = .failure
            "Invalid query parameter: colour; Invalid value for race_speed: fast"
            (some ["Invalid query parameter: colour", "Invalid value for race_speed: fast"]) := by
  intro session
  constructor
  · have herrors : Catalog.errorsWithoutLookups .races [("race_name", "elf")] = some [] := by
      decide +kernel
    obtain ⟨catalog, hbuild, hreads⟩ := Catalog.exists_read herrors
    refine ⟨catalog, hbuild, ?_, ?_⟩
    · obtain ⟨request, hread, hnone⟩ := hreads .sqlite
      -- nothing is wrong with the request, so the third case applies
      have hanswered := respond_issues_at_most_one_statement (Service.mk catalog ⟨[]⟩ .sqlite)
        .races [("race_name", "elf")] session
      simp only [hread] at hanswered
      obtain ⟨query, -, hissued, hstatus⟩ := hanswered.2.2 hnone (by decide)
      refine ⟨hstatus, ?_⟩
      rw [hissued]
      rfl
    · obtain ⟨request, hread, hnone⟩ := hreads .postgres
      have hanswered := respond_issues_at_most_one_statement (Service.mk catalog ⟨[]⟩ .postgres)
        .races [("race_name", "elf")] session
      simp only [hread] at hanswered
      -- the backend is looked at before the session is
      exact hanswered.2.1 hnone trivial
  · have herrors : Catalog.errorsWithoutLookups .races [("colour", "red"), ("race_speed", "fast")]
        = some [.unknownParameter "colour", .invalidValue "race_speed" "fast"] := by
      decide +kernel
    obtain ⟨catalog, hbuild, hreads⟩ := Catalog.exists_read herrors
    obtain ⟨request, hread, herrors⟩ := hreads .postgres
    have hanswered := respond_issues_at_most_one_statement (Service.mk catalog ⟨[]⟩ .postgres)
      .races [("colour", "red"), ("race_speed", "fast")] session
    simp only [hread, herrors] at hanswered
    exact ⟨catalog, hbuild, hanswered.1 (by decide)⟩

end Compendium
