import Mathlib.Data.List.Forall2
import Compendium.Proofs.Fallible
import Compendium.Proofs.Lookup.Resolution
import Compendium.Proofs.Lookup.Traffic

/-!
# Compendium — a load is all or nothing

The answer to a load fills the lookup with the entries of all rows, or it leaves no trace: one row
whose id cannot be read is enough to drop the others, and then the lookup is as good as new. What a
caller can tell of a lookup are the replies that it gives, so a lookup is compared by these: a loaded
one with a lookup over the same entries that was filled by hand, and one whose load has failed with
one that was never loaded.

* `NameSource.Gives` is the entry of a row; `NameSource.entries_of_hasId` and
  `NameSource.entries_of_not_fills` say when an answer has entries and which.
* `LookupTraffic.replies_of_ready` compares two ready lookups by what they reply.
* `LookupTraffic.behind` counts the loads of a lookup on from earlier ones, and
  `LookupTraffic.replies_behind` says that nothing else depends on them, by induction on what happens.
* `load_is_all_or_nothing` is the law, after any history.
-/

namespace Compendium

/-! ## Entries of an answer -/

namespace NameSource

variable {source : NameSource}

/-- The row has an id that can be read. -/
def HasId (source : NameSource) (row : Row) : Prop := ∃ id, row.int source.idColumn = .ok id

/-- The entry has the id of the row and the names that are not absent, in the order of the columns. -/
structure Gives (source : NameSource) (row : Row) (entry : NameEntry) : Prop where
  id : row.int source.idColumn = .ok entry.id
  names : entry.names = source.nameColumns.filterMap row.text?

/-- The query was answered, and every row has an id that can be read. -/
def Fills (source : NameSource) (answer : DbAnswer) : Prop :=
  ∃ results, answer = .ok results ∧ ∀ row ∈ results.rows, source.HasId row

/-- A row has an entry if it has an id, and the entry is the one that it gives. -/
theorem entry_eq_ok_iff {row : Row} {entry : NameEntry} :
    source.entry row = .ok entry ↔ source.Gives row entry := by
  rw [NameSource.entry, bind_eq_ok_iff]
  constructor
  · rintro ⟨id, hid, hentry⟩
    cases hentry
    exact ⟨hid, rfl⟩
  · rintro ⟨hid, hnames⟩
    refine ⟨entry.id, hid, ?_⟩
    rw [← hnames]
    rfl

/-- An answer has the entries of its rows. -/
theorem entries_of_hasId {results : ResultSet} (h : ∀ row ∈ results.rows, source.HasId row) :
    ∃ entries, source.entries (.ok results) = .ok entries
      ∧ List.Forall₂ source.Gives results.rows entries := by
  have hentry : ∀ row ∈ results.rows, ∃ entry, source.entry row = .ok entry := by
    intro row hrow
    obtain ⟨id, hid⟩ := h row hrow
    exact ⟨⟨id, _⟩, entry_eq_ok_iff.2 ⟨hid, rfl⟩⟩
  refine ⟨_, bind_eq_ok_iff.2 ⟨results, rfl, (mapM_eq_ok_iff default).2 ⟨hentry, rfl⟩⟩, ?_⟩
  rw [List.forall₂_map_right_iff, List.forall₂_same]
  intro row hrow
  obtain ⟨entry, hok⟩ := hentry row hrow
  rw [← entry_eq_ok_iff, hok]
  rfl

/-- One row without an id is enough for an answer to have no entries. -/
theorem entries_of_not_fills {answer : DbAnswer} (h : ¬source.Fills answer) :
    ∃ cause, source.entries answer = .error cause := by
  rcases hentries : source.entries answer with cause | entries
  · exact ⟨cause, rfl⟩
  · obtain ⟨results, hresults, hall⟩ := bind_eq_ok_iff.1 hentries
    refine absurd ⟨results, hresults, fun row hrow => ?_⟩ h
    obtain ⟨entry, hentry⟩ := ((mapM_eq_ok_iff default).1 hall).1 row hrow
    exact ⟨entry.id, (entry_eq_ok_iff.1 hentry).id⟩

end NameSource

/-! ## Loads counted on -/

/-- The same for a lookup that has issued `n` statements more before. -/
def LookupEvent.shift (n : Nat) : LookupEvent → LookupEvent
  | .answer load given => .answer (n + load) given
  | .giveUp load => .giveUp (n + load)
  | event => event

/-- The same of a lookup that has issued `n` statements more before. -/
def LookupReply.shift (n : Nat) : LookupReply → LookupReply
  | .waiting load => .waiting (n + load)
  | reply => reply

namespace LookupTraffic

/-- What is heard of the events, one after the other. -/
def replies (t : LookupTraffic) : List LookupEvent → List LookupReply
  | [] => []
  | event :: events => (t.step event).1 :: (t.step event).2.replies events

/-- The lookup behind the statements of earlier loads that have come to their end. -/
def behind (earlier : List DbStatement) (t : LookupTraffic) : LookupTraffic where
  lookup := t.lookup
  inFlight := t.inFlight.map fun (load, source) => (earlier.length + load, source)
  issued := earlier ++ t.issued

variable (earlier : List DbStatement) (t : LookupTraffic)

/-- Earlier loads leave the lookup to the later ones. -/
theorem lookup_behind : (t.behind earlier).lookup = t.lookup := rfl

/-- A lookup that nothing has happened to yet has the earlier statements and no load in flight. -/
theorem ofLookup_behind (lookup : Lookup) : (ofLookup lookup).behind earlier = ⟨lookup, [], earlier⟩ :=
  congrArg (LookupTraffic.mk lookup []) (List.append_nil earlier)

/-- A load goes by its number in the list of all statements. -/
theorem lookup_inFlight_behind (load : Nat) :
    (t.behind earlier).inFlight.lookup (earlier.length + load) = t.inFlight.lookup load := by
  show (t.inFlight.map _).lookup _ = _
  induction t.inFlight with
  | nil => rfl
  | cons l ls ih =>
    obtain ⟨load', source⟩ := l
    -- two numbers are equal just when they are with the same added to both
    have hbeq : (earlier.length + load == earlier.length + load') = (load == load') := by
      simp
    rw [List.map_cons, List.lookup_cons, List.lookup_cons, ih, hbeq]

/-- A load comes to its end behind earlier ones as it does alone. -/
theorem settle_behind (load : Nat) (lookup : Lookup) :
    (t.behind earlier).settle (earlier.length + load) lookup
      = (t.settle load lookup).behind earlier := by
  have hinFlight : ((t.behind earlier).settle (earlier.length + load) lookup).inFlight
      = ((t.settle load lookup).behind earlier).inFlight := by
    simp [settle, behind, List.filter_map, Function.comp_def]
  exact congrArg (LookupTraffic.mk lookup · (earlier ++ t.issued)) hinFlight

/-- Earlier loads change the numbers of the later ones and nothing else. -/
theorem step_behind (event : LookupEvent) :
    (t.behind earlier).step (event.shift earlier.length)
      = ((t.step event).1.shift earlier.length, (t.step event).2.behind earlier) := by
  cases event with
  | resolve input => rfl
  | size => rfl
  | status => rfl
  | beginLoad =>
    show step _ .beginLoad = _
    unfold step
    rw [lookup_behind]
    -- a load that starts goes by the number of the statements before it, the earlier ones included
    rcases t.lookup.startLoad with ⟨outcome | source, lookup⟩
    · rfl
    · simp [behind, LookupReply.shift]
  | answer load given =>
    show step _ (.answer (earlier.length + load) given) = _
    unfold step
    simp only [lookup_inFlight_behind, settle_behind]
    cases t.inFlight.lookup load with
    | none => rfl
    | some source => rfl
  | giveUp load =>
    show step _ (.giveUp (earlier.length + load)) = _
    unfold step
    simp only [lookup_inFlight_behind, settle_behind]
    cases t.inFlight.lookup load with
    | none => rfl
    | some source => rfl

/-- What is heard differs in the numbers of the loads alone, by induction on what happens. -/
theorem replies_behind (events : List LookupEvent) :
    (t.behind earlier).replies (events.map (.shift earlier.length))
      = (t.replies events).map (.shift earlier.length) := by
  induction events generalizing t with
  | nil => rfl
  | cons event events ih => rw [List.map_cons, replies, step_behind, ih, replies, List.map_cons]

/-- What is left after any number of events differs in the same way. -/
theorem run_behind (events : List LookupEvent) :
    (t.behind earlier).run (events.map (.shift earlier.length)) = (t.run events).behind earlier := by
  induction events generalizing t with
  | nil => rfl
  | cons event events ih =>
    rw [List.map_cons, run, List.foldl_cons, step_behind]
    exact ih _

variable {name : String} {source : NameSource} {issued : List DbStatement}

/-- A lookup that has been loaded replies as one that was filled by hand. -/
theorem replies_of_ready (index : NameIndex) (events : List LookupEvent) :
    replies ⟨⟨name, some source, .ready index⟩, [], issued⟩ events
      = replies ⟨⟨name, none, .ready index⟩, [], []⟩ events := by
  induction events with
  | nil => rfl
  | cons event events ih =>
    have hreply : (step ⟨⟨name, some source, .ready index⟩, [], issued⟩ event).1
        = (step ⟨⟨name, none, .ready index⟩, [], []⟩ event).1 := by
      cases event <;> rfl
    rw [replies, replies, step_of_ready, step_of_ready, hreply, ih]

end LookupTraffic

/-- A load starts with one statement. If every row of the answer has an id, the load returns the
number of different ids, and from then on the lookup replies as one that was filled by hand with the
entries of the rows. Otherwise the load fails, and from then on the lookup replies, and issues
statements, as one that was never loaded; only the numbers of its loads go on from the earlier ones.
This holds after any history, whatever else happens while the load is in flight. -/
theorem load_is_all_or_nothing (name : String) (source : NameSource)
    (history : List LookupEvent) :
    let fresh := LookupTraffic.ofLookup (.unloaded name source)
    let t := fresh.run history
    let load := t.issued.length
    t.lookup.status = .uninitialized →
      (t.step .beginLoad).1 = .waiting load
      ∧ ∀ meanwhile : List LookupEvent, (∀ event ∈ meanwhile, ¬event.Ends load) →
        let loading := (t.step .beginLoad).2.run meanwhile
        loading.issued = t.issued ++ [source.statement]
        ∧ ∀ answer : DbAnswer,
          let reply := (loading.step (.answer load answer)).1
          let after := (loading.step (.answer load answer)).2
          let n := after.issued.length
          after.issued = loading.issued
          ∧ (∀ results, answer = .ok results → (∀ row ∈ results.rows, source.HasId row) →
              ∃ entries, List.Forall₂ source.Gives results.rows entries
                ∧ reply = .loaded (.ok (entries.map (·.id)).eraseDups.length)
                ∧ ∀ later, after.replies later
                  = (LookupTraffic.ofLookup (.ofEntries name entries)).replies later)
          ∧ (¬source.Fills answer →
              (∃ cause, reply = .loaded (.error (.load name cause)))
              ∧ ∀ later, after.replies (later.map (.shift n)) = (fresh.replies later).map (.shift n)
                ∧ (after.run (later.map (.shift n))).issued
                  = after.issued ++ (fresh.run later).issued) := by
  intro fresh t load hstatus
  have hsound : t.Sound name source := LookupTraffic.sound_run (.uninitialized []) history
  clear_value t
  cases hsound with
  | loading load issued => cases hstatus
  | ready index issued => cases hstatus
  | uninitialized issued =>
    refine ⟨rfl, fun meanwhile hmeanwhile => ?_⟩
    intro loading
    -- what happens meanwhile does not end the load, so it is still in flight
    have hloading : loading = ⟨⟨name, some source, .loading⟩, [(load, source)],
        issued ++ [source.statement]⟩ := LookupTraffic.run_of_not_ends hmeanwhile _
    clear_value loading
    subst hloading
    refine ⟨rfl, fun answer => ?_⟩
    intro reply after n
    have hstep : (reply, after) = (.loaded (LookupTraffic.outcomeOf name source answer),
        ⟨LookupTraffic.answered name source answer, [], issued ++ [source.statement]⟩) :=
      LookupTraffic.step_answer_of_loading load _ answer
    obtain ⟨hreply, hafter⟩ := Prod.mk.inj hstep
    clear_value reply after
    subst hreply hafter
    refine ⟨rfl, fun results hresults hids => ?_, fun hnot => ?_⟩
    · obtain ⟨entries, hentries, hgives⟩ := NameSource.entries_of_hasId hids
      subst hresults
      rw [LookupTraffic.outcomeOf, LookupTraffic.answered, hentries]
      refine ⟨entries, hgives, ?_, LookupTraffic.replies_of_ready _⟩
      rw [← NameIndex.size_ofEntries]
    · obtain ⟨cause, hcause⟩ := NameSource.entries_of_not_fills hnot
      -- a failed load leaves a lookup that nothing has happened to, behind the statements so far
      have hbehind : fresh.behind (issued ++ [source.statement])
          = ⟨LookupTraffic.answered name source answer, [], issued ++ [source.statement]⟩ := by
        rw [LookupTraffic.ofLookup_behind, LookupTraffic.answered, hcause]
        rfl
      refine ⟨⟨cause, ?_⟩, fun later => ?_⟩
      · rw [LookupTraffic.outcomeOf, hcause]
      · have hreplies := LookupTraffic.replies_behind (issued ++ [source.statement]) fresh later
        have hrun := LookupTraffic.run_behind (issued ++ [source.statement]) fresh later
        rw [hbehind] at hreplies hrun
        exact ⟨hreplies, congrArg LookupTraffic.issued hrun⟩

/-- The first load of the schools is given up and the second fails. -/
def schoolHistory : List LookupEvent :=
  [ .beginLoad, .resolve "evocation", .giveUp 0, .beginLoad,
    .answer 1 (.error (.custom "connection lost")) ]

/-- A row without an id behind a row that has one. -/
def halfReadable : ResultSet :=
  .ofRows [ [("school_id", .int 3), ("school_name", .text "Evocation")],
    [("school_id", .null), ("school_name", .text "Illusion")] ]

/-- Of the answers to the third load, one whose second row has no id leaves the lookup as good as
new, and one with two rows for one school fills it. -/
theorem load_is_all_or_nothing_third_load :
    let fresh := LookupTraffic.ofLookup (.unloaded "schools" schoolNames)
    let t := fresh.run schoolHistory
    let loading := (t.step .beginLoad).2.run [.size, .beginLoad, .giveUp 1]
    let results : ResultSet :=
      .ofRows [[("school_id", .int 3), ("school_name", .text "Evocation")], [("school_id", .int 3)]]
    t.lookup.status = .uninitialized
      ∧ loading.issued = t.issued ++ [schoolNames.statement]
      ∧ (∃ entries, List.Forall₂ schoolNames.Gives results.rows entries
          ∧ (loading.step (.answer 2 (.ok results))).1
            = .loaded (.ok (entries.map (·.id)).eraseDups.length))
      ∧ (∃ cause, (loading.step (.answer 2 (.ok halfReadable))).1
          = .loaded (.error (.load "schools" cause)))
      ∧ (loading.step (.answer 2 (.ok halfReadable))).2.replies [.beginLoad, .giveUp 3, .size]
          = (fresh.replies [.beginLoad, .giveUp 0, .size]).map (.shift 3) := by
  intro fresh t loading results
  have hstatus : t.lookup.status = .uninitialized := rfl
  obtain ⟨-, hload⟩ := load_is_all_or_nothing "schools" schoolNames schoolHistory hstatus
  obtain ⟨hissued, hanswer⟩ := hload [.size, .beginLoad, .giveUp 1]
    (by decide)
  have hids : ∀ row ∈ results.rows, schoolNames.HasId row := by
    have hid : ∀ row ∈ results.rows, row.int "school_id" = .ok 3 := by decide
    exact fun row hrow => ⟨3, hid row hrow⟩
  have hnot : ¬schoolNames.Fills (.ok halfReadable) := by
    rintro ⟨results, hresults, hids⟩
    cases hresults
    -- the second row has no id
    obtain ⟨id, hid⟩ := hids _ (List.mem_cons_of_mem _ List.mem_cons_self)
    cases hid
  obtain ⟨entries, hgives, hreply, -⟩ := (hanswer (.ok results)).2.1 results rfl hids
  obtain ⟨hfails, hlater⟩ := (hanswer (.ok halfReadable)).2.2 hnot
  exact ⟨hstatus, hissued, ⟨entries, hgives, hreply⟩, hfails,
    (hlater [.beginLoad, .giveUp 0, .size]).1⟩

end Compendium
