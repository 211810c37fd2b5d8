import Compendium.Proofs.Http.Answers
import Compendium.Proofs.Request.Unready

/-!
# Compendium — what a client does not learn

A request that ends with 500 ends in one of two places. Before the database there was no query to
send, and after it the statement or its total was of no use. A client can tell the two apart, but
not what went wrong.

* `Service.plan_cases` lists what a request can come to before the database, and
  `ListRun.response_of_status_eq_500` what the two answers are.
* `internal_details_stay_inside` is what holds of any two runs.
-/

namespace Compendium

/-! ## The two answers -/

namespace Http.Response

/-- There was no query to send. -/
def notBuilt : Response := ⟨500, none, some json, none, .failure "Failed to build query" none⟩

/-- The statement was sent, and nothing came of it. -/
def databaseFailed : Response :=
  ⟨500, none, some json, none, .failure "A database error occurred" none⟩

end Http.Response

namespace QueryFailure

/-- The client's own mistakes. -/
def isInvalidRequest : QueryFailure → Bool
  | invalidRequest _ => true
  | _ => false

/-- A lookup that the database failed to fill. -/
def isLoad : QueryFailure → Bool
  | lookup (.load _ _) => true
  | _ => false

end QueryFailure

/-- Of a failure that is not the client's only its kind is told. -/
theorem Http.Response.ofFailure_ofQueryFailure {e : QueryFailure} (h : e.isInvalidRequest = false) :
    ofFailure (.ofQueryFailure e) = if e.isLoad then databaseFailed else notBuilt := by
  match e with
  | .lookup (.notReady name) => rfl
  | .lookup (.poisoned name) => rfl
  | .lookup (.load name cause) => rfl
  | .invalidRequest errors => cases h
  | .unsupportedBackend backend => rfl

/-- What a request comes to before the database: a query, the client's mistakes, or a failure that
is no fault of the client's and has nothing to do with the database. -/
theorem Service.plan_cases (service : Service) (resource : Resource)
    (pairs : List (String × String)) :
    (∃ request query, service.plan resource pairs = .ok (request, query))
      ∨ (∃ errors, service.plan resource pairs = .error (.ofParamErrors errors))
      ∨ ∃ e : QueryFailure, e.isInvalidRequest = false ∧ e.isLoad = false
        ∧ service.plan resource pairs = .error (.ofQueryFailure e) := by
  cases hread : service.read resource pairs with
  | error e =>
    -- reading fails only if a lookup is not ready, and never because one fails to load
    obtain ⟨name, rfl⟩ := Listing.eq_notReady_of_readRequest hread
    exact .inr (.inr ⟨_, rfl, rfl, plan_of_read_eq_error hread⟩)
  | ok request =>
    cases hvalid : request.isValid with
    | false => exact .inr (.inl ⟨_, plan_of_not_isValid hread hvalid⟩)
    | true =>
      rw [plan_of_isValid hread hvalid]
      by_cases hbackend : service.backend = .postgres
      · rw [hbackend, Listing.pageQuery_postgres hvalid]
        exact .inr (.inr ⟨.unsupportedBackend .postgres, rfl, rfl, rfl⟩)
      · rw [Listing.pageQuery_of_isValid hvalid hbackend]
        exact .inl ⟨request, _, rfl⟩

/-- Once the query is made, a failure can only be the database's. -/
theorem Service.response_of_plan_eq_ok {service : Service} {resource : Resource}
    {pairs : List (String × String)} {request : ListRequest} {query : PageQuery}
    (h : service.plan resource pairs = .ok (request, query)) (session : Session) :
    (service.respond resource pairs session).1.status = 200
      ∨ (service.respond resource pairs session).1 = .databaseFailed := by
  simp only [respond, list, h, PageQuery.fetch, PageQuery.fetchRows]
  cases Page.ofAnswer request.pagination (session.query query.statement).1 with
  | error cause => exact .inr rfl
  | ok page => exact .inl rfl

/-- One list request, and the database that it finds. -/
structure ListRun where
  service : Service
  resource : Resource
  pairs : List (String × String)
  session : Session

namespace ListRun

def response (run : ListRun) : Http.Response :=
  (run.service.respond run.resource run.pairs run.session).1

/-- The request has sent a statement. -/
def ReachesDatabase (run : ListRun) : Prop :=
  (run.service.respond run.resource run.pairs run.session).2.issued ≠ run.session.issued

instance (run : ListRun) : Decidable run.ReachesDatabase :=
  inferInstanceAs (Decidable (_ ≠ _))

/-- A request that is answered 500 is answered in one of two ways, and which one it is depends only
on whether a statement was sent. -/
theorem response_of_status_eq_500 {run : ListRun} (h : run.response.status = 500) :
    run.response = if run.ReachesDatabase then .databaseFailed else .notBuilt := by
  rcases run.service.plan_cases run.resource run.pairs with
    ⟨request, query, hplan⟩ | ⟨errors, hplan⟩ | ⟨e, hclient, hload, hplan⟩
  · -- with a query a statement is sent, and a 500 can only mean that it failed
    have hsent : run.ReachesDatabase := by
      rw [ReachesDatabase, (Service.respond_of_plan_eq_ok run.session hplan).1]
      simp [Session.query]
    rw [if_pos hsent]
    refine (Service.response_of_plan_eq_ok hplan run.session).resolve_left fun hok => ?_
    exact absurd (h.symm.trans hok) (by decide)
  · -- mistakes are told with 400
    rw [response, Service.respond_of_plan_eq_error hplan] at h
    cases h
  · -- what ends before the database leaves the session as it was
    have hunsent : ¬ run.ReachesDatabase := by
      rw [ReachesDatabase, Service.respond_of_plan_eq_error hplan]
      exact fun hissued => hissued rfl
    rw [if_neg hunsent, response, Service.respond_of_plan_eq_error hplan,
      Http.Response.ofFailure_ofQueryFailure hclient, hload]
    rfl

/-! ### Which runs are answered 500 -/

variable {run : ListRun} {request : ListRequest}

/-- A lookup that is not ready ends a run before the database. -/
theorem unread_of_read_eq_error {e : LookupError}
    (h : run.service.read run.resource run.pairs = .error e) :
    run.response.status = 500 ∧ ¬ run.ReachesDatabase := by
  obtain ⟨hstatus, hsession⟩ := Service.respond_of_read_eq_error h
  exact ⟨hstatus, fun hsent => hsent (congrArg Session.issued hsession)⟩

theorem unbuilt_of_postgres (h : run.service.read run.resource run.pairs = .ok request)
    (hnone : request.errors = []) (hpostgres : run.service.backend = .postgres) :
    run.response.status = 500 ∧ ¬ run.ReachesDatabase := by
  obtain ⟨hstatus, hsession⟩ := Service.respond_of_postgres h hnone hpostgres
  exact ⟨hstatus, fun hsent => hsent (congrArg Session.issued hsession)⟩

/-- A statement that fails, and one whose first row carries no total, end a run behind the database.
-/
theorem failed_of_hasTotal_eq_false (h : run.service.read run.resource run.pairs = .ok request)
    (hnone : request.errors = []) (hbackend : run.service.backend ≠ .postgres)
    (htotal : (run.session.answers.headD (.error Session.exhausted)).hasTotal = false) :
    run.response.status = 500 ∧ run.ReachesDatabase := by
  obtain ⟨query, -, hissued, hstatus⟩ :=
    Service.respond_of_backend run.session h hnone hbackend
  refine ⟨hstatus.trans ?_, ?_⟩
  · simp only [Session.query, htotal]
    rfl
  · rw [ReachesDatabase, hissued]
    simp

end ListRun

/-- Any two runs that are answered 500 after a statement was sent, and any two that are answered 500
before one was, get one and the same answer, whoever asks whom for what and whatever went wrong. So
do any two failures of a query that are not the client's, if both or neither come from loading a
lookup; and such a failure is answered just as a run that has ended on its side of the database. -/
theorem internal_details_stay_inside :
    (∀ run run' : ListRun, run.response.status = 500 → run'.response.status = 500 →
        (run.ReachesDatabase ↔ run'.ReachesDatabase) → run.response = run'.response)
    ∧ (∀ e e' : QueryFailure, e.isInvalidRequest = false → e'.isInvalidRequest = false →
        e.isLoad = e'.isLoad →
        Http.Response.ofFailure (.ofQueryFailure e) = .ofFailure (.ofQueryFailure e'))
    ∧ ∀ (run : ListRun) (e : QueryFailure), run.response.status = 500 → e.isInvalidRequest = false →
        (run.ReachesDatabase ↔ e.isLoad = true) → run.response = .ofFailure (.ofQueryFailure e) := by
  refine ⟨fun run run' h h' hreaches => ?_, fun e e' h h' hload => ?_,
    fun run e h he hreaches => ?_⟩
  · rw [ListRun.response_of_status_eq_500 h, ListRun.response_of_status_eq_500 h']
    -- the answer depends on nothing but the side on which the run has ended
    simp only [hreaches]
  · rw [Http.Response.ofFailure_ofQueryFailure h, Http.Response.ofFailure_ofQueryFailure h', hload]
  · rw [ListRun.response_of_status_eq_500 h, Http.Response.ofFailure_ofQueryFailure he]
    simp only [hreaches]

/-- Elves are asked for, without a lookup. -/
def Races.elvesRun (catalog : Catalog) (backend : Backend) (answers : List DbAnswer) : ListRun :=
  ⟨⟨catalog, ⟨[]⟩, backend⟩, .races, [("race_name", "elf")], .ofAnswers answers⟩

/-- Classes are asked for by a book before the books are loaded. -/
def Classes.earlyRun (catalog : Catalog) : ListRun :=
  ⟨⟨catalog, .reference, .mysql⟩, .classes, [("source", "PHB")], .ofAnswers [.ok (.ofRows [])]⟩

/-- A book cannot be looked up before the books are loaded. -/
theorem Classes.earlyRun_unread {catalog : Catalog} (hbuild : Catalog.build = .ok catalog) :
    (earlyRun catalog).response.status = 500 ∧ ¬ (earlyRun catalog).ReachesDatabase := by
  have hcomputed : Catalog.build.toOption.map (fun catalog =>
      ((earlyRun catalog).service.read .classes [("source", "PHB")]).toOption.isNone)
        = some true := by
    decide +kernel
  have hnone := eq_of_map_toOption hbuild hcomputed
  cases hread : (earlyRun catalog).service.read .classes [("source", "PHB")] with
  | error e => exact ListRun.unread_of_read_eq_error hread
  | ok request =>
    rw [hread] at hnone
    cases hnone

/-- A lookup that is not loaded looks like a backend without question marks, and a lost connection
like a total that is none. -/
theorem internal_details_stay_inside_elves :
    ∃ catalog, Catalog.build = .ok catalog
      ∧ (Classes.earlyRun catalog).response.status = 500
      ∧ (Classes.earlyRun catalog).response = (Races.elvesRun catalog .postgres []).response
      ∧ (Races.elvesRun catalog .mysql [.ok (.ofRows [[("total_count", .null)]])]).response.status
        = 500
      ∧ (Races.elvesRun catalog .mysql [.ok (.ofRows [[("total_count", .null)]])]).response
        = (Races.elvesRun catalog .sqlite [.error (.custom "connection lost")]).response := by
  have herrors : Catalog.errorsWithoutLookups .races [("race_name", "elf")] = some [] := by
    decide +kernel
  obtain ⟨catalog, hbuild, hreads⟩ := Catalog.exists_read herrors
  obtain ⟨hsame, -, -⟩ := internal_details_stay_inside
  -- two runs end before the database and two behind it
  have hearly := Classes.earlyRun_unread hbuild
  have hpostgres : (Races.elvesRun catalog .postgres []).response.status = 500
      ∧ ¬ (Races.elvesRun catalog .postgres []).ReachesDatabase := by
    obtain ⟨request, hread, hnone⟩ := hreads .postgres
    exact ListRun.unbuilt_of_postgres hread hnone rfl
  have hfailed : ∀ backend answers, backend ≠ .postgres →
      (answers.headD (.error Session.exhausted)).hasTotal = false →
      (Races.elvesRun catalog backend answers).response.status = 500
        ∧ (Races.elvesRun catalog backend answers).ReachesDatabase := by
    intro backend answers hbackend htotal
    obtain ⟨request, hread, hnone⟩ := hreads backend
    exact ListRun.failed_of_hasTotal_eq_false hread hnone hbackend htotal
  have hnull := hfailed .mysql [.ok (.ofRows [[("total_count", .null)]])] (by decide) (by decide)
  have hlost := hfailed .sqlite [.error (.custom "connection lost")] (by decide) (by decide)
  exact ⟨catalog, hbuild,
    hearly.1, hsame _ _ hearly.1 hpostgres.1 (iff_of_false hearly.2 hpostgres.2),
    hnull.1, hsame _ _ hnull.1 hlost.1 (iff_of_true hnull.2 hlost.2)⟩

end Compendium
