import Mathlib.Data.List.Nodup
import Compendium.Entity.Catalog

/-!
# Compendium — loading the lookups again and again

The lookups of a set load in order, and a call that meets a failure leaves the rest for the next
one. So at any time the first so many lookups are ready and the others wait to be loaded: a call
takes up behind those that are ready, loads one after the other, and stops at the first that fails.

* `Loaded` says that the first so many lookups over a list of tables are ready and the others are
  uninitialized.
* `LoadCall.Proceeds` is what one call comes to, and `Loaded.proceeds` says that every call comes to
  that, by induction on what it finds.
* `LookupSet.history` are the calls that are made one after the other, and
  `Loaded.proceeds_of_mem_history` and `Loaded.loads_le` are the laws of a history, by induction on it.
* `loading_resumes_where_it_stopped` is what holds of the reference lookups.
-/

namespace Compendium

/-- A lookup before it is loaded: its name and where its entries come from. -/
abbrev NameTable := String × NameSource

namespace NameTable

def unloaded (table : NameTable) : Lookup := .unloaded table.1 table.2

def statement (table : NameTable) : DbStatement := table.2.statement

end NameTable

/-- The first `n` lookups over the tables are ready and the others are uninitialized. -/
inductive Loaded : List NameTable → Nat → List Lookup → Prop
  | none (tables : List NameTable) : Loaded tables 0 (tables.map NameTable.unloaded)
  | ready (name : String) (source : NameSource) (index : NameIndex) {tables : List NameTable}
      {n : Nat} {lookups : List Lookup} (h : Loaded tables n lookups) :
      Loaded ((name, source) :: tables) (n + 1) (⟨name, some source, .ready index⟩ :: lookups)

namespace LookupSet

/-- The lookups that load from somewhere. -/
def tables (set : LookupSet) : List NameTable :=
  set.lookups.filterMap fun lookup => lookup.source.map (lookup.name, ·)

def statuses (set : LookupSet) : List LookupStatus := set.lookups.map (·.status)

end LookupSet

namespace Loaded

variable {tables : List NameTable} {n : Nat} {lookups : List Lookup}

theorem le_length (h : Loaded tables n lookups) : n ≤ tables.length := by
  induction h with
  | none tables => exact Nat.zero_le _
  | ready name source index h ih => exact Nat.succ_le_succ ih

/-- A load changes the states of the lookups and not what they load from. -/
theorem tables_eq (h : Loaded tables n lookups) : LookupSet.tables ⟨lookups⟩ = tables := by
  induction h with
  | none tables =>
    rw [LookupSet.tables, List.filterMap_map]
    exact List.filterMap_some
  | ready name source index h ih => exact congrArg ((name, source) :: ·) ih

/-- The statuses are so many that are ready and then only such as wait. -/
theorem statuses_eq (h : Loaded tables n lookups) :
    LookupSet.statuses ⟨lookups⟩
      = List.replicate n .ready ++ List.replicate (tables.length - n) .uninitialized := by
  induction h with
  | none tables =>
    rw [LookupSet.statuses, List.map_map]
    exact List.map_const'
  | ready name source index h ih =>
    rw [List.length_cons, Nat.add_sub_add_right]
    exact congrArg (.ready :: ·) ih

/-- A lookup is ready just when it is one of the first. -/
theorem ready_iff (h : Loaded tables n lookups) (i : Nat) :
    (LookupSet.statuses ⟨lookups⟩)[i]? = some .ready ↔ i < n := by
  rw [h.statuses_eq]
  by_cases hi : i < n
  · simp [List.getElem?_append_left, hi]
  · rw [List.getElem?_append_right (by simpa using hi), List.getElem?_replicate]
    simp [hi]

end Loaded

/-! ## One call -/

/-- A call to load the lookups that are there, and the answers that the database has for it. -/
structure LoadCall where
  before : LookupSet
  answers : List DbAnswer

namespace LoadCall

def outcome (call : LoadCall) : Except LookupError Unit :=
  (call.before.loadAll (.ofAnswers call.answers)).1

def after (call : LoadCall) : LookupSet :=
  (call.before.loadAll (.ofAnswers call.answers)).2.1

def issued (call : LoadCall) : List DbStatement :=
  (call.before.loadAll (.ofAnswers call.answers)).2.2.issued

/-- The answer to the statement that comes behind `k` others. -/
def answer (call : LoadCall) (k : Nat) : DbAnswer :=
  call.answers.getD k (.error Session.exhausted)

/-- What a call comes to that finds `n` of the tables loaded and leaves `m` of them loaded. It issues
the statements of those that it loads and of the one that fails, if one does. -/
structure Proceeds (tables : List NameTable) (n m : Nat) (call : LoadCall) : Prop where
  le : n ≤ m
  after : Loaded tables m call.after.lookups
  kept : call.after.lookups.take n = call.before.lookups.take n
  issued : call.issued = ((tables.drop n).take (m + 1 - n)).map NameTable.statement
  loads : ∀ i, n ≤ i → i < m → ∃ name source entries, tables[i]? = some (name, source)
    ∧ source.entries (call.answer (i - n)) = .ok entries
    ∧ call.after.lookups[i]? = some ⟨name, some source, .ready (.ofEntries entries)⟩
  ends : m = tables.length ∧ call.outcome = .ok ()
    ∨ ∃ name source cause, tables[m]? = some (name, source)
      ∧ source.entries (call.answer (m - n)) = .error cause
      ∧ call.outcome = .error (.load name cause)

end LoadCall

/-- What was issued before has no say in what a load does. -/
theorem Lookup.load_issued (lookup : Lookup) (answers : List DbAnswer)
    (issued : List DbStatement) :
    lookup.load ⟨answers, issued⟩
      = ((lookup.load (.ofAnswers answers)).1, (lookup.load (.ofAnswers answers)).2.1,
          ⟨(lookup.load (.ofAnswers answers)).2.2.answers,
            issued ++ (lookup.load (.ofAnswers answers)).2.2.issued⟩) := by
  unfold load
  cases lookup.startLoad with
  | mk start lookup =>
    cases start with
    | settled outcome =>
      simp only [Session.ofAnswers, List.append_nil]
    | querying source => rfl

/-- What was issued before has no say in what a call does either. The induction is on the lookups,
for whatever answers and statements the one before has left. -/
theorem LookupSet.loadEach_issued (lookups : List Lookup) (answers : List DbAnswer)
    (issued : List DbStatement) :
    loadEach lookups ⟨answers, issued⟩
      = ((loadEach lookups (.ofAnswers answers)).1, (loadEach lookups (.ofAnswers answers)).2.1,
          ⟨(loadEach lookups (.ofAnswers answers)).2.2.answers,
            issued ++ (loadEach lookups (.ofAnswers answers)).2.2.issued⟩) := by
  induction lookups generalizing answers issued with
  | nil => simp only [loadEach, Session.ofAnswers, List.append_nil]
  | cons lookup rest ih =>
    rw [loadEach, loadEach, lookup.load_issued]
    generalize lookup.load (.ofAnswers answers) = loaded
    obtain ⟨outcome, lookup, answers, issued'⟩ := loaded
    cases outcome with
    | error e => rfl
    | ok size =>
      dsimp only
      -- the statements of this load come before those of the others
      rw [ih answers (issued ++ issued'), ih answers issued']
      simp only [List.append_assoc]

/-- The first statement of a call gets the first answer, or fails if there is none. -/
theorem Session.query_ofAnswers (answers : List DbAnswer) (statement : DbStatement) :
    (ofAnswers answers).query statement
      = (answers.getD 0 (.error exhausted), ⟨answers.tail, [statement]⟩) := by
  cases answers <;> rfl

namespace LoadCall

section FirstLookup

variable (name : String) {source : NameSource} (rest : List Lookup) {answers : List DbAnswer}

/-- A lookup whose answer is in order becomes ready, and the call goes on with the others. -/
theorem eq_of_entries_ok {entries : List NameEntry}
    (h : source.entries (answers.getD 0 (.error Session.exhausted)) = .ok entries) :
    let call : LoadCall := ⟨⟨.unloaded name source :: rest⟩, answers⟩
    let later : LoadCall := ⟨⟨rest⟩, answers.tail⟩
    call.outcome = later.outcome
      ∧ call.after.lookups
        = ⟨name, some source, .ready (.ofEntries entries)⟩ :: later.after.lookups
      ∧ call.issued = source.statement :: later.issued := by
  have hload : Lookup.load (.unloaded name source) (.ofAnswers answers)
      = (.ok (NameIndex.ofEntries entries).size,
          ⟨name, some source, .ready (.ofEntries entries)⟩,
          ⟨answers.tail, [source.statement]⟩) := by
    simp only [Lookup.load, Lookup.startLoad, Lookup.unloaded, Lookup.finishLoad,
      Session.query_ofAnswers, h]
  have hrest := LookupSet.loadEach_issued rest answers.tail [source.statement]
  simp [outcome, after, issued, LookupSet.loadAll, LookupSet.loadEach, hload, hrest]

/-- A lookup whose answer is not in order stays as it was, and so do the others. -/
theorem eq_of_entries_error {cause : DbError}
    (h : source.entries (answers.getD 0 (.error Session.exhausted)) = .error cause) :
    let call : LoadCall := ⟨⟨.unloaded name source :: rest⟩, answers⟩
    call.outcome = .error (.load name cause)
      ∧ call.after.lookups = .unloaded name source :: rest
      ∧ call.issued = [source.statement] := by
  have hload : Lookup.load (.unloaded name source) (.ofAnswers answers)
      = (.error (.load name cause), .unloaded name source,
          ⟨answers.tail, [source.statement]⟩) := by
    simp only [Lookup.load, Lookup.startLoad, Lookup.unloaded, Lookup.finishLoad,
      Lookup.abandonLoad, Session.query_ofAnswers, h]
  simp [outcome, after, issued, LookupSet.loadAll, LookupSet.loadEach, hload]

end FirstLookup

namespace Proceeds

variable {tables : List NameTable} {n m : Nat}

/-- A ready lookup in front is passed over. -/
theorem ready {lookups : List Lookup} {answers : List DbAnswer}
    (h : Proceeds tables n m ⟨⟨lookups⟩, answers⟩) (name : String) (source : NameSource)
    (index : NameIndex) :
    Proceeds ((name, source) :: tables) (n + 1) (m + 1)
      ⟨⟨⟨name, some source, .ready index⟩ :: lookups⟩, answers⟩ where
  le := Nat.succ_le_succ h.le
  after := .ready name source index h.after
  kept := congrArg (List.cons _) h.kept
  issued := by
    rw [List.drop_succ_cons, Nat.add_sub_add_right]
    exact h.issued
  loads := by
    intro i hn hm
    cases i with
    -- the lookup in front is not one that the call loads
    | zero => exact absurd hn (Nat.not_succ_le_zero n)
    | succ i =>
      rw [Nat.add_sub_add_right]
      exact h.loads i (Nat.le_of_succ_le_succ hn) (Nat.lt_of_succ_lt_succ hm)
  ends := by
    rw [Nat.add_sub_add_right]
    exact h.ends.imp_left (And.imp_left (congrArg (· + 1)))

/-- A lookup in front that loads is one more of those that the call loads. -/
theorem load {answers : List DbAnswer} {name : String} {source : NameSource}
    {entries : List NameEntry}
    (h : Proceeds tables 0 m ⟨⟨tables.map NameTable.unloaded⟩, answers.tail⟩)
    (hentries : source.entries (answers.getD 0 (.error Session.exhausted)) = .ok entries) :
    Proceeds ((name, source) :: tables) 0 (m + 1)
      ⟨⟨.unloaded name source :: tables.map NameTable.unloaded⟩, answers⟩ := by
  obtain ⟨houtcome, hafter, hissued⟩ :=
    eq_of_entries_ok name (tables.map NameTable.unloaded) hentries
  -- the first answer is used up, so the later ones are one further on
  have hanswer : ∀ k, LoadCall.answer ⟨⟨tables.map NameTable.unloaded⟩, answers.tail⟩ k
      = answers.getD (k + 1) (.error Session.exhausted) := by
    intro k
    cases answers <;> rfl
  refine ⟨Nat.zero_le _, ?_, rfl, ?_, ?_, ?_⟩
  · rw [hafter]
    exact .ready name source _ h.after
  · rw [hissued, h.issued]
    rfl
  · intro i _ hm
    cases i with
    -- the lookup in front has its entries from the first answer
    | zero => exact ⟨name, source, entries, rfl, hentries, by rw [hafter]; rfl⟩
    | succ i =>
      obtain ⟨name', source', entries', htable, hentries', hlookup⟩ :=
        h.loads i (Nat.zero_le i) (Nat.lt_of_succ_lt_succ hm)
      rw [hanswer] at hentries'
      exact ⟨name', source', entries', htable, hentries', by rw [hafter]; exact hlookup⟩
  · rw [houtcome]
    rcases h.ends with ⟨hall, hok⟩ | ⟨name', source', cause, htable, hcause, herror⟩
    · exact .inl ⟨congrArg (· + 1) hall, hok⟩
    · rw [hanswer] at hcause
      exact .inr ⟨name', source', cause, htable, hcause, herror⟩

/-- A lookup in front that fails is the end of the call. -/
theorem fail {answers : List DbAnswer} {name : String} {source : NameSource} {cause : DbError}
    (hcause : source.entries (answers.getD 0 (.error Session.exhausted)) = .error cause) :
    Proceeds ((name, source) :: tables) 0 0
      ⟨⟨.unloaded name source :: tables.map NameTable.unloaded⟩, answers⟩ := by
  obtain ⟨houtcome, hafter, hissued⟩ :=
    eq_of_entries_error name (tables.map NameTable.unloaded) hcause
  refine ⟨Nat.le_refl 0, ?_, rfl, hissued, fun i _ hi => absurd hi (Nat.not_lt_zero i), ?_⟩
  · rw [hafter]
    exact .none ((name, source) :: tables)
  · exact .inr ⟨name, source, cause, rfl, hcause, houtcome⟩

end Proceeds

end LoadCall

/-- Whatever a call finds loaded and whatever the answers, it proceeds. -/
theorem Loaded.proceeds {tables : List NameTable} {n : Nat} {lookups : List Lookup}
    (h : Loaded tables n lookups) (answers : List DbAnswer) :
    ∃ m, LoadCall.Proceeds tables n m ⟨⟨lookups⟩, answers⟩ := by
  induction h with
  | ready name source index h ih =>
    obtain ⟨m, hproceeds⟩ := ih
    exact ⟨m + 1, hproceeds.ready name source index⟩
  | none tables =>
    -- nothing is loaded yet: each answer decides whether the call goes on
    induction tables generalizing answers with
    | nil =>
      exact ⟨0, Nat.le_refl 0, .none [], rfl, rfl, fun i _ hi => absurd hi (Nat.not_lt_zero i),
        .inl ⟨rfl, rfl⟩⟩
    | cons table tables ih =>
      obtain ⟨name, source⟩ := table
      cases hentries : source.entries (answers.getD 0 (.error Session.exhausted)) with
      | error cause => exact ⟨0, .fail hentries⟩
      | ok entries =>
        obtain ⟨m, hproceeds⟩ := ih answers.tail
        exact ⟨m + 1, hproceeds.load hentries⟩

/-! ## One call after the other -/

/-- The calls that are made one after the other, each with the answers that the database has for
it. Each finds what the one before left. -/
def LookupSet.history (set : LookupSet) : List (List DbAnswer) → List LoadCall
  | [] => []
  | answers :: scripts =>
    let call : LoadCall := ⟨set, answers⟩
    call :: call.after.history scripts

/-- How often the calls that leave the `i`-th lookup ready issue the statement. -/
def LoadCall.loads (history : List LoadCall) (i : Nat) (statement : DbStatement) : Nat :=
  ((history.filter fun call => call.after.statuses[i]? = some .ready).flatMap issued).count statement

/-- The loads in a history are those of the first call and those of the others. -/
theorem LoadCall.loads_cons (call : LoadCall) (history : List LoadCall) (i : Nat)
    (statement : DbStatement) :
    loads (call :: history) i statement
      = (if call.after.statuses[i]? = some .ready then call.issued.count statement else 0)
        + loads history i statement := by
  unfold loads
  split_ifs with hready
  · rw [List.filter_cons_of_pos (by simpa using hready), List.flatMap_cons, List.count_append]
  · rw [List.filter_cons_of_neg (by simpa using hready), Nat.zero_add]

namespace Loaded

variable {tables : List NameTable} {n : Nat} {set : LookupSet}

/-- Every call of a history proceeds from what it finds. The induction is on the calls, for each
starts from what the one before has left. -/
theorem proceeds_of_mem_history (h : Loaded tables n set.lookups) (scripts : List (List DbAnswer)) :
    ∀ call ∈ set.history scripts, ∃ n' m, Loaded tables n' call.before.lookups
      ∧ call.Proceeds tables n' m := by
  induction scripts generalizing n set with
  | nil => exact List.forall_mem_nil _
  | cons answers scripts ih =>
    obtain ⟨m, hproceeds⟩ := h.proceeds answers
    rw [LookupSet.history, List.forall_mem_cons]
    exact ⟨⟨n, m, h, hproceeds⟩, ih hproceeds.after⟩

end Loaded

section Repeats

variable {tables : List NameTable} {n : Nat} {i : Nat} {name : String} {source : NameSource}

/-- A call issues no statement twice, and none for a lookup that it finds loaded. -/
theorem LoadCall.Proceeds.count_issued_le {m : Nat} {call : LoadCall}
    (h : call.Proceeds tables n m) (hnodup : (tables.map NameTable.statement).Nodup)
    (htable : tables[i]? = some (name, source)) :
    call.issued.count source.statement ≤ if i < n then 0 else 1 := by
  have hsublist : call.issued.Sublist ((tables.map NameTable.statement).drop n) := by
    rw [h.issued, ← List.map_drop]
    exact (List.take_sublist _ _).map _
  have hcount := hsublist.count_le source.statement
  split_ifs with hi
  · -- the statement is among the first `n`, so it is not among the others
    have hget : ((tables.map NameTable.statement).take n)[i]? = some source.statement := by
      rw [List.getElem?_take_of_lt hi, List.getElem?_map, htable]
      rfl
    have hdisjoint := List.disjoint_take_drop hnodup (Nat.le_refl n)
    rw [List.count_eq_zero_of_not_mem (hdisjoint (List.mem_of_getElem? hget))] at hcount
    exact hcount
  · exact Nat.le_trans hcount
      (List.nodup_iff_count_le_one.mp (hnodup.sublist (List.drop_sublist n _)) _)

/-- A lookup that waits is loaded at most once from there on, and one that is ready never again. -/
theorem Loaded.loads_le {set : LookupSet} (h : Loaded tables n set.lookups)
    (hnodup : (tables.map NameTable.statement).Nodup)
    (htable : tables[i]? = some (name, source)) (scripts : List (List DbAnswer)) :
    LoadCall.loads (set.history scripts) i source.statement ≤ if i < n then 0 else 1 := by
  induction scripts generalizing n set with
  | nil => exact Nat.zero_le _
  | cons answers scripts ih =>
    obtain ⟨m, hproceeds⟩ : ∃ m, LoadCall.Proceeds tables n m ⟨set, answers⟩ := h.proceeds answers
    -- what this call issues, and what all later ones do
    have hle := hproceeds.le
    have hissued := hproceeds.count_issued_le hnodup htable
    have hlater := ih hproceeds.after
    rw [LookupSet.history, LoadCall.loads_cons]
    simp only [hproceeds.after.ready_iff i]
    by_cases hm : i < m
    · -- it is ready after this call, so no later one loads it
      rw [if_pos hm] at hlater ⊢
      rw [Nat.le_zero.mp hlater]
      exact hissued
    · -- it still waits, so that this call does not count
      have hn : ¬ i < n := by omega
      rw [if_neg hm] at hlater ⊢
      rw [if_neg hn]
      omega

end Repeats

/-- Whatever the answers to any number of calls to load the seven reference lookups, each call finds
the first so many of them ready and leaves at least those ready, with the entries that they had; all
the others are uninitialized before and after it. It issues one statement for each lookup that was not
ready, in order, up to the first that fails, and no other; those before that one are ready with the
entries of their answers. The call succeeds if all are ready then, and otherwise it ends with the
failure of the first that is not. No statement is issued twice by calls that leave its lookup ready,
so that no lookup is loaded more than once. -/
theorem loading_resumes_where_it_stopped (scripts : List (List DbAnswer)) :
    let tables := LookupSet.reference.tables
    let history := LookupSet.reference.history scripts
    (∀ call ∈ history, ∃ n m, n ≤ m ∧ m ≤ 7
        ∧ call.before.statuses
          = List.replicate n .ready ++ List.replicate (7 - n) .uninitialized
        ∧ call.after.statuses
          = List.replicate m .ready ++ List.replicate (7 - m) .uninitialized
        ∧ call.after.tables = tables
        ∧ call.after.lookups.take n = call.before.lookups.take n
        ∧ call.issued = ((tables.drop n).take (m + 1 - n)).map NameTable.statement
        ∧ (∀ i, n ≤ i → i < m → ∃ name source entries, tables[i]? = some (name, source)
            ∧ source.entries (call.answer (i - n)) = .ok entries
            ∧ call.after.lookups[i]? = some ⟨name, some source, .ready (.ofEntries entries)⟩)
        ∧ (call.outcome = .ok () ↔ m = 7)
        ∧ (m < 7 → ∃ name source cause, tables[m]? = some (name, source)
            ∧ source.entries (call.answer (m - n)) = .error cause
            ∧ call.outcome = .error (.load name cause)))
    ∧ ∀ i name source, tables[i]? = some (name, source) →
        LoadCall.loads history i source.statement ≤ 1 := by
  intro tables history
  have hfresh : Loaded tables 0 LookupSet.reference.lookups := .none tables
  refine ⟨fun call hcall => ?_, fun i name source htable => ?_⟩
  · obtain ⟨n, m, hbefore, h⟩ := hfresh.proceeds_of_mem_history scripts call hcall
    refine ⟨n, m, h.le, h.after.le_length, hbefore.statuses_eq, h.after.statuses_eq,
      h.after.tables_eq, h.kept, h.issued, h.loads, ?_, ?_⟩
    · rcases h.ends with ⟨hall, hok⟩ | ⟨name, source, cause, htable, -, herror⟩
      · exact ⟨fun _ => hall, fun _ => hok⟩
      · -- a table that fails is one of the seven, so not all of them are ready
        obtain ⟨hlt, -⟩ := List.getElem?_eq_some_iff.mp htable
        rw [herror]
        exact ⟨nofun, fun hall => absurd hall (Nat.ne_of_lt hlt)⟩
    · intro hlt
      exact h.ends.resolve_left fun hall => Nat.ne_of_lt hlt hall.1
  · have hnodup : (tables.map NameTable.statement).Nodup := by decide +kernel
    exact hfresh.loads_le hnodup htable scripts

/-- The third table fails in the first call and again in the second, the third call loads what is
left, and the fourth finds nothing to do. -/
def interruptedLoads : List (List DbAnswer) :=
  [ [ .ok (.ofRows [[("school_id", .int 3), ("school_name", .text "Evocation")]]), .ok (.ofRows []),
      .error (.custom "connection lost") ],
    [],
    List.replicate 5 (.ok (.ofRows [])),
    [] ]

/-- The first call ends with the failure of the third table, which is loaded once in the end. -/
theorem loading_resumes_where_it_stopped_interrupted :
    let history := LookupSet.reference.history interruptedLoads
    history.map (fun call => (call.after.statuses.count .ready, call.issued.length))
        = [(2, 3), (2, 1), (7, 5), (7, 0)]
      ∧ (∃ call ∈ history, ∃ name source cause, LookupSet.reference.tables[2]? = some (name, source)
        ∧ call.outcome = .error (.load name cause))
      ∧ ∃ name source, LookupSet.reference.tables[2]? = some (name, source)
        ∧ LoadCall.loads history 2 source.statement ≤ 1 := by
  intro history
  obtain ⟨hcalls, honce⟩ := loading_resumes_where_it_stopped interruptedLoads
  refine ⟨by decide +kernel, ⟨_, List.mem_cons_self, ?_⟩, _, _, rfl, honce 2 _ _ rfl⟩
  obtain ⟨n, m, -, -, -, hafter, -, -, -, -, -, hfails⟩ := hcalls _ List.mem_cons_self
  have hcount := congrArg (List.count LookupStatus.ready) hafter
  rw [List.count_append, List.count_replicate_self, List.count_replicate] at hcount
  -- the first call leaves two lookups ready
  have hm : m = 2 := hcount.symm.trans (by decide +kernel)
  subst hm
  obtain ⟨name, source, cause, htable, -, herror⟩ := hfails (by decide +kernel)
  exact ⟨name, source, cause, htable, herror⟩

end Compendium
