import Compendium.Lookup.Basic

/-!
# Compendium — lookups under traffic

Many callers share a lookup. They ask it and they load it, and a load that has issued its statement
is in flight until the answer comes or its caller gives it up; meanwhile the others go on.
`LookupTraffic` is the lookup with its loads in flight and the statements issued so far, and
`LookupTraffic.step` is the next thing that a caller or the database does.

* `LookupTraffic.Sound` lists the three situations that traffic can lead to, and `sound_step` and
  `sound_run` say that it leads to no other.
* `LookupTraffic.step_of_ready` says that nothing changes a ready lookup.
* `lookup_sound_under_traffic` is what every caller may rely on.
-/

namespace Compendium

inductive LookupEvent where
  | resolve (input : String)
  | size
  | status
  | beginLoad
  /-- The statement of a load in flight is answered. -/
  | answer (load : Nat) (answer : DbAnswer)
  /-- The caller of a load in flight stops waiting. -/
  | giveUp (load : Nat)

/-- The load comes to its end. -/
def LookupEvent.Ends (load : Nat) : LookupEvent → Prop
  | .answer load' _ => load' = load
  | .giveUp load' => load' = load
  | _ => False

instance (load : Nat) : DecidablePred (LookupEvent.Ends load)
  | .answer load' _ => inferInstanceAs (Decidable (load' = load))
  | .giveUp load' => inferInstanceAs (Decidable (load' = load))
  | .resolve _ | .size | .status | .beginLoad => inferInstanceAs (Decidable False)

/-- What a caller hears. -/
inductive LookupReply where
  | resolved (outcome : Except LookupError (Option Int64))
  | sized (outcome : Except LookupError Nat)
  | status (status : LookupStatus)
  | loaded (outcome : Except LookupError Nat)
  /-- The load is in flight. -/
  | waiting (load : Nat)
  | nothing

/-- A load in flight goes by the number of statements issued before its own. -/
structure LookupTraffic where
  lookup : Lookup
  inFlight : List (Nat × NameSource)
  issued : List DbStatement

namespace LookupTraffic

def ofLookup (lookup : Lookup) : LookupTraffic := ⟨lookup, [], []⟩

/-- The load has come to its end. -/
def settle (t : LookupTraffic) (load : Nat) (lookup : Lookup) : LookupTraffic :=
  { t with lookup := lookup, inFlight := t.inFlight.filter (·.1 ≠ load) }

/-- An answer to a load that is not in flight reaches nobody. -/
def step (t : LookupTraffic) : LookupEvent → LookupReply × LookupTraffic
  | .resolve input => (.resolved (t.lookup.resolve input), t)
  | .size => (.sized t.lookup.size, t)
  | .status => (.status t.lookup.status, t)
  | .beginLoad =>
    match t.lookup.startLoad with
    | (.settled outcome, lookup) => (.loaded outcome, { t with lookup := lookup })
    | (.querying source, lookup) =>
      let load := t.issued.length
      (.waiting load, ⟨lookup, t.inFlight ++ [(load, source)], t.issued ++ [source.statement]⟩)
  | .answer load answer =>
    match t.inFlight.lookup load with
    | none => (.nothing, t)
    | some source =>
      let (outcome, lookup) := t.lookup.finishLoad source answer
      (.loaded outcome, t.settle load lookup)
  | .giveUp load =>
    match t.inFlight.lookup load with
    | none => (.nothing, t)
    | some _ => (.nothing, t.settle load t.lookup.abandonLoad)

def run (t : LookupTraffic) (events : List LookupEvent) : LookupTraffic :=
  events.foldl (fun t event => (t.step event).2) t

/-! ## What traffic leads to -/

/-- The lookup waits to be loaded, or one load is in flight, or the lookup is ready. -/
inductive Sound (name : String) (source : NameSource) : LookupTraffic → Prop
  | uninitialized (issued : List DbStatement) :
      Sound name source ⟨⟨name, some source, .uninitialized⟩, [], issued⟩
  | loading (load : Nat) (issued : List DbStatement) :
      Sound name source ⟨⟨name, some source, .loading⟩, [(load, source)], issued⟩
  | ready (index : NameIndex) (issued : List DbStatement) :
      Sound name source ⟨⟨name, some source, .ready index⟩, [], issued⟩

variable {name : String} {source : NameSource} {t : LookupTraffic}

/-- The lookup after its load in flight was answered. -/
def answered (name : String) (source : NameSource) (answer : DbAnswer) : Lookup :=
  match source.entries answer with
  | .error _ => ⟨name, some source, .uninitialized⟩
  | .ok entries => ⟨name, some source, .ready (.ofEntries entries)⟩

/-- What the caller of the load in flight hears of the answer. -/
def outcomeOf (name : String) (source : NameSource) (answer : DbAnswer) : Except LookupError Nat :=
  match source.entries answer with
  | .error cause => .error (.load name cause)
  | .ok entries => .ok (NameIndex.ofEntries entries).size

/-- The end of the one load in flight leaves none. -/
theorem step_answer_of_loading (load : Nat) (issued : List DbStatement) (answer : DbAnswer) :
    step ⟨⟨name, some source, .loading⟩, [(load, source)], issued⟩ (.answer load answer)
      = (.loaded (outcomeOf name source answer), ⟨answered name source answer, [], issued⟩) := by
  have hfinish : Lookup.finishLoad ⟨name, some source, .loading⟩ source answer
      = (outcomeOf name source answer, answered name source answer) := by
    unfold Lookup.finishLoad outcomeOf answered
    cases source.entries answer with
    | error cause => rfl
    | ok entries => rfl
  simp [step, settle, hfinish]

/-- A load that is given up leaves the lookup as it was before. -/
theorem step_giveUp_of_loading (load : Nat) (issued : List DbStatement) :
    step ⟨⟨name, some source, .loading⟩, [(load, source)], issued⟩ (.giveUp load)
      = (.nothing, ⟨⟨name, some source, .uninitialized⟩, [], issued⟩) := by
  simp [step, settle, Lookup.abandonLoad]

/-- What concerns a load that is not in flight changes nothing. -/
theorem step_of_lookup_eq_none {load : Nat} (h : t.inFlight.lookup load = none)
    (answer : DbAnswer) :
    t.step (.answer load answer) = (.nothing, t) ∧ t.step (.giveUp load) = (.nothing, t) := by
  simp [step, h]

/-- While one load is in flight another is refused. -/
theorem step_beginLoad_of_loading (load : Nat) (issued : List DbStatement) :
    step ⟨⟨name, some source, .loading⟩, [(load, source)], issued⟩ .beginLoad
      = (.loaded (.error (.notReady name)),
          ⟨⟨name, some source, .loading⟩, [(load, source)], issued⟩) := rfl

/-- A load in flight goes on until it ends. -/
theorem step_of_not_ends {load : Nat} {event : LookupEvent} (h : ¬event.Ends load)
    (issued : List DbStatement) :
    (step ⟨⟨name, some source, .loading⟩, [(load, source)], issued⟩ event).2
      = ⟨⟨name, some source, .loading⟩, [(load, source)], issued⟩ := by
  cases event with
  | answer load' answer =>
    -- the event is about another load, and there is none other in flight
    have hnone : List.lookup load' [(load, source)] = none := by
      simpa [LookupEvent.Ends] using h
    rw [(step_of_lookup_eq_none hnone answer).1]
  | giveUp load' =>
    have hnone : List.lookup load' [(load, source)] = none := by
      simpa [LookupEvent.Ends] using h
    rw [(step_of_lookup_eq_none hnone (.ok (.ofRows []))).2]
  | _ => rfl

/-- Nothing that happens changes a ready lookup, and no statement is issued for it. -/
theorem step_of_ready (source : Option NameSource) (index : NameIndex) (issued : List DbStatement)
    (event : LookupEvent) :
    (step ⟨⟨name, source, .ready index⟩, [], issued⟩ event).2
      = ⟨⟨name, source, .ready index⟩, [], issued⟩ := by
  cases source <;> cases event <;> rfl

/-- Events of which none changes anything change nothing together. -/
theorem run_eq_self {events : List LookupEvent} (h : ∀ event ∈ events, (t.step event).2 = t) :
    t.run events = t := by
  induction events with
  | nil => rfl
  | cons event events ih =>
    obtain ⟨hevent, hevents⟩ := List.forall_mem_cons.1 h
    rw [run, List.foldl_cons, hevent]
    exact ih hevents

theorem run_of_not_ends {load : Nat} {events : List LookupEvent}
    (h : ∀ event ∈ events, ¬event.Ends load) (issued : List DbStatement) :
    run ⟨⟨name, some source, .loading⟩, [(load, source)], issued⟩ events
      = ⟨⟨name, some source, .loading⟩, [(load, source)], issued⟩ :=
  run_eq_self fun event hevent => step_of_not_ends (h event hevent) issued

/-- A ready lookup stays so for good. -/
theorem run_of_ready (source : Option NameSource) (index : NameIndex) (issued : List DbStatement)
    (events : List LookupEvent) :
    run ⟨⟨name, source, .ready index⟩, [], issued⟩ events
      = ⟨⟨name, source, .ready index⟩, [], issued⟩ :=
  run_eq_self fun event _ => step_of_ready source index issued event

/-- The load in flight goes on, or its end decides whether the lookup is ready. -/
theorem sound_step (h : t.Sound name source) (event : LookupEvent) :
    (t.step event).2.Sound name source := by
  cases h with
  | uninitialized issued =>
    cases event with
    | beginLoad => exact .loading _ _
    | _ => exact .uninitialized issued
  | loading load issued =>
    -- this is the one load in flight
    by_cases hends : event.Ends load
    · cases event with
      | answer load' answer =>
        cases hends
        rw [step_answer_of_loading]
        unfold answered
        cases source.entries answer with
        | error cause => exact .uninitialized issued
        | ok entries => exact .ready _ issued
      | giveUp load' =>
        cases hends
        rw [step_giveUp_of_loading]
        exact .uninitialized issued
      | _ => cases hends
    · -- nothing but its end changes anything for a load in flight
      rw [step_of_not_ends hends]
      exact .loading load issued
  | ready index issued =>
    rw [step_of_ready]
    exact .ready index issued

/-- Traffic leads to the three situations and to no other, by induction on what happens. -/
theorem sound_run (h : t.Sound name source) (events : List LookupEvent) :
    (t.run events).Sound name source := by
  induction events generalizing t with
  | nil => exact h
  | cons event events ih => exact ih (sound_step h event)

end LookupTraffic

/-- After any traffic a lookup that was to be loaded from a source has at most one load in flight,
and it is loading if there is one. It answers if it is ready, and otherwise says that it is not.
While a load is in flight no other starts, issues a statement or changes anything; a load that is
given up or fails leaves the lookup uninitialized, from where the next one starts with one
statement; and a ready lookup stays as it is and issues none. -/
theorem lookup_sound_under_traffic (name : String) (source : NameSource)
    (events : List LookupEvent) :
    let t := (LookupTraffic.ofLookup (.unloaded name source)).run events
    (t.inFlight.length ≤ 1 ∧ (t.lookup.status = .loading ↔ t.inFlight ≠ []))
    ∧ (t.lookup.status = .ready →
        (∀ input, ∃ id, (t.step (.resolve input)).1 = .resolved (.ok id))
        ∧ ∃ n, (t.step .size).1 = .sized (.ok n))
    ∧ (t.lookup.status ≠ .ready →
        (∀ input, (t.step (.resolve input)).1 = .resolved (.error (.notReady name)))
        ∧ (t.step .size).1 = .sized (.error (.notReady name)))
    ∧ (t.inFlight ≠ [] → t.step .beginLoad = (.loaded (.error (.notReady name)), t))
    ∧ (∀ load ∈ t.inFlight.map Prod.fst,
        (t.step (.giveUp load)).2.lookup.status = .uninitialized
        ∧ ∀ answer, match source.entries answer with
          | .error cause =>
            (t.step (.answer load answer)).1 = .loaded (.error (.load name cause))
              ∧ (t.step (.answer load answer)).2.lookup.status = .uninitialized
          | .ok entries =>
            (t.step (.answer load answer)).1 = .loaded (.ok (NameIndex.ofEntries entries).size)
              ∧ (t.step (.answer load answer)).2.lookup.status = .ready)
    ∧ (t.lookup.status = .uninitialized →
        (t.step .beginLoad).2.lookup.status = .loading
        ∧ (t.step .beginLoad).2.issued = t.issued ++ [source.statement])
    ∧ (t.lookup.status = .ready → ∀ later, t.run later = t) := by
  intro t
  have hsound : t.Sound name source := LookupTraffic.sound_run (.uninitialized []) events
  -- only the situation matters from here on, and not how it came about
  clear_value t
  cases hsound with
  | uninitialized issued =>
    refine ⟨⟨by simp, by simp [Lookup.status]⟩, nofun, fun _ => ⟨fun _ => rfl, rfl⟩,
      fun h => absurd rfl h, nofun, fun _ => ⟨rfl, rfl⟩, nofun⟩
  | loading load issued =>
    refine ⟨⟨by simp, by simp [Lookup.status]⟩, nofun, fun _ => ⟨fun _ => rfl, rfl⟩,
      fun _ => LookupTraffic.step_beginLoad_of_loading load issued, ?_, nofun, nofun⟩
    rw [List.map_singleton, List.forall_mem_singleton, LookupTraffic.step_giveUp_of_loading]
    refine ⟨rfl, fun answer => ?_⟩
    -- the answer decides what the caller hears and what the lookup becomes
    rw [LookupTraffic.step_answer_of_loading, LookupTraffic.outcomeOf, LookupTraffic.answered]
    cases source.entries answer with
    | error cause => exact ⟨rfl, rfl⟩
    | ok entries => exact ⟨rfl, rfl⟩
  | ready index issued =>
    refine ⟨⟨by simp, by simp [Lookup.status]⟩,
      fun _ => ⟨fun input => ⟨index.resolve input, rfl⟩, index.size, rfl⟩,
      fun h => absurd rfl h, fun h => absurd rfl h, nofun, nofun,
      fun _ => LookupTraffic.run_of_ready (some source) index issued⟩

/-- Where the names of schools come from. -/
def schoolNames : NameSource := ⟨"spell_schools", "school_id", ["school_name"], none⟩

/-- The first load of the schools is given up, the second fails, and the third is in flight. -/
def schoolTraffic : List LookupEvent :=
  [ .beginLoad, .beginLoad, .resolve "evocation", .giveUp 0, .giveUp 0, .beginLoad,
    .answer 1 (.error (.custom "connection lost")), .beginLoad ]

/-- A fourth load is refused, and with the answer to the third the lookup is ready for good. -/
theorem lookup_sound_under_traffic_third_load :
    let t := (LookupTraffic.ofLookup (.unloaded "schools" schoolNames)).run schoolTraffic
    let answer : LookupEvent :=
      .answer 2 (.ok (.ofRows [[("school_id", .int 3), ("school_name", .text "Evocation")]]))
    t.inFlight = [(2, schoolNames)] ∧ t.issued.length = 3
      ∧ t.step .beginLoad = (.loaded (.error (.notReady "schools")), t)
      ∧ (t.step (.giveUp 2)).2.lookup.status = .uninitialized
      ∧ (t.run [answer]).lookup.status = .ready
      ∧ ∀ later, (t.run [answer]).run later = t.run [answer] := by
  intro t answer
  have hinFlight : t.inFlight = [(2, schoolNames)] := rfl
  obtain ⟨-, -, -, hrefused, hends, -, -⟩ :=
    lookup_sound_under_traffic "schools" schoolNames schoolTraffic
  obtain ⟨-, -, -, -, -, -, hready⟩ :=
    lookup_sound_under_traffic "schools" schoolNames (schoolTraffic ++ [answer])
  have hstatus : (t.run [answer]).lookup.status = .ready := rfl
  -- the third load can be given up or answered, and the answer fills the lookup
  refine ⟨hinFlight, rfl, hrefused ?_, (hends 2 ?_).1, hstatus, hready hstatus⟩
  · exact List.cons_ne_nil _ _
  · exact List.mem_singleton_self 2

end Compendium
