import Compendium.Lookup.Basic
import Compendium.Proofs.FirstOccurrences
import Compendium.Proofs.Lookup.Names

/-!
# Compendium — what a text stands for

A text that is entered stands for an id of the entries, or for none. `Identifies` says which, from
the entries in their order and with no index: an integer literal stands for itself if some entry has
that id, and any other text for the first entry that has it as a name. There is exactly one answer
to each text, and it is the one of a lookup over the entries (`lookup_answers_as_its_entries`).

* `Text.int64?_eq_some_iff` says which texts are integer literals.
* `NameIndex.resolveIn_eq_iff` ties the search through the entries to `Identifies`.
* `NameIndex.size_ofEntries` counts the ids of an index.
-/

namespace Compendium

/-! ## Integer literals -/

namespace Text

/-- The text spells `n`: one digit or more in base ten, behind a sign or none. -/
def SpellsInt64 (text : String) (n : Int64) : Prop :=
  ∃ digits : List Char, digits ≠ [] ∧ (∀ c ∈ digits, c.isDigit)
    ∧ ((text.toList = digits ∨ text.toList = '+' :: digits)
          ∧ n.toInt = Nat.ofDigitChars 10 digits 0
        ∨ text.toList = '-' :: digits ∧ n.toInt = -Nat.ofDigitChars 10 digits 0)

/-- A number is read from one digit or more, by their value in base ten. -/
theorem natural?_eq_some_iff {cs : List Char} {n : Nat} :
    natural? cs = some n ↔ cs ≠ [] ∧ (∀ c ∈ cs, c.isDigit) ∧ n = Nat.ofDigitChars 10 cs 0 := by
  have hvalue : digitsValue cs = Nat.ofDigitChars 10 cs 0 := rfl
  simp [natural?, hvalue, and_assoc, eq_comm (a := n)]

/-- A digit is no sign. -/
theorem integer?_of_digits {cs : List Char} (hne : cs ≠ []) (h : ∀ c ∈ cs, c.isDigit) :
    integer? cs = (natural? cs).map Int.ofNat := by
  rcases cs with _ | ⟨c, cs⟩
  · exact absurd rfl hne
  · -- neither of the two signs is a digit
    have hdigit : c.isDigit = true := h c List.mem_cons_self
    unfold integer?
    split
    · rename_i heq
      cases heq
      exact absurd hdigit (by decide)
    · rename_i heq
      cases heq
      exact absurd hdigit (by decide)
    · rfl

/-- An integer is read from digits behind a sign or none; only the minus changes the value. -/
theorem integer?_eq_some_iff {cs : List Char} {z : Int} :
    integer? cs = some z ↔
      ∃ digits : List Char, digits ≠ [] ∧ (∀ c ∈ digits, c.isDigit)
        ∧ ((cs = digits ∨ cs = '+' :: digits) ∧ z = Nat.ofDigitChars 10 digits 0
            ∨ cs = '-' :: digits ∧ z = -Nat.ofDigitChars 10 digits 0) := by
  constructor
  · intro h
    unfold integer? at h
    split at h
    · rename_i digits
      obtain ⟨n, hn, rfl⟩ := Option.map_eq_some_iff.1 h
      obtain ⟨hne, hdigits, rfl⟩ := natural?_eq_some_iff.1 hn
      -- behind a plus
      exact ⟨digits, hne, hdigits, .inl ⟨.inr rfl, rfl⟩⟩
    · rename_i digits
      obtain ⟨m, hm, rfl⟩ := Option.map_eq_some_iff.1 h
      obtain ⟨n, hn, hmn⟩ := Option.bind_eq_some_iff.1 hm
      cases hmn
      obtain ⟨hne, hdigits, rfl⟩ := natural?_eq_some_iff.1 hn
      -- behind a minus
      exact ⟨digits, hne, hdigits, .inr ⟨rfl, rfl⟩⟩
    · obtain ⟨n, hn, rfl⟩ := Option.map_eq_some_iff.1 h
      obtain ⟨hne, hdigits, rfl⟩ := natural?_eq_some_iff.1 hn
      exact ⟨cs, hne, hdigits, .inl ⟨.inl rfl, rfl⟩⟩
  · rintro ⟨digits, hne, hdigits, hsign⟩
    have hnatural : natural? digits = some (Nat.ofDigitChars 10 digits 0) :=
      natural?_eq_some_iff.2 ⟨hne, hdigits, rfl⟩
    rcases hsign with ⟨rfl | rfl, rfl⟩ | ⟨rfl, rfl⟩
    · rw [integer?_of_digits hne hdigits, hnatural]
      rfl
    · rw [integer?, hnatural]
      rfl
    · rw [integer?, hnatural]
      rfl

/-- A word is read from the literals that spell it, and from nothing else. -/
theorem int64?_eq_some_iff {text : String} {n : Int64} :
    int64? text = some n ↔ SpellsInt64 text n := by
  unfold SpellsInt64
  rw [← integer?_eq_some_iff]
  constructor
  · exact toInt_of_int64?_eq_some
  · intro h
    -- a word is in the range of words, so the second check passes
    have hrange : Int64.minValue.toInt ≤ n.toInt ∧ n.toInt ≤ Int64.maxValue.toInt := by
      rw [Int64.toInt_minValue, Int64.toInt_maxValue]
      exact ⟨n.le_toInt, by have := n.toInt_lt; omega⟩
    rw [int64?, h, Option.bind_some, if_pos hrange, Int64.ofInt_toInt]

/-- A text from which no word is read spells none, also if its number is too large. -/
theorem int64?_eq_none_iff {text : String} :
    int64? text = none ↔ ∀ n, ¬SpellsInt64 text n := by
  rw [Option.eq_none_iff_forall_ne_some]
  exact forall_congr' fun n => not_congr int64?_eq_some_iff

theorem SpellsInt64.ne_empty {text : String} {n : Int64} (h : SpellsInt64 text n) : text ≠ "" := by
  rintro rfl
  cases int64?_eq_some_iff.2 h

end Text

/-! ## What a text stands for -/

/-- The text is one of the entry's names, blanks around the name and case aside. -/
def NameEntry.HasName (entry : NameEntry) (text : String) : Prop :=
  ∃ name ∈ entry.names, Text.lowercase (Text.trim name) = Text.lowercase text

/-- What a text without blanks around it stands for among the entries. -/
inductive Identifies (entries : List NameEntry) : String → Option Int64 → Prop
  | blank {text : String} (h : text = "") : Identifies entries text none
  | id {text : String} {id : Int64} (hliteral : Text.SpellsInt64 text id)
      (h : ∃ entry ∈ entries, entry.id = id) : Identifies entries text (some id)
  | missingId {text : String} {id : Int64} (hliteral : Text.SpellsInt64 text id)
      (h : ∀ entry ∈ entries, entry.id ≠ id) : Identifies entries text none
  | name {text : String} (hne : text ≠ "") (hliteral : ∀ id, ¬Text.SpellsInt64 text id)
      {before after : List NameEntry} {entry : NameEntry}
      (hentries : entries = before ++ entry :: after)
      (hbefore : ∀ e ∈ before, ¬e.HasName text) (h : entry.HasName text) :
      Identifies entries text (some entry.id)
  | missingName {text : String} (hne : text ≠ "") (hliteral : ∀ id, ¬Text.SpellsInt64 text id)
      (h : ∀ entry ∈ entries, ¬entry.HasName text) : Identifies entries text none

namespace NameIndex

variable {entries : List NameEntry} {text : String} {id : Int64}

/-- The search compares names in the same form as `HasName`. -/
theorem goesBy_iff {entry : NameEntry} :
    goesBy (Text.lowercase text) entry = true ↔ entry.HasName text := by
  simp [goesBy, NameEntry.HasName, nameKey]

theorem any_id_iff : entries.any (·.id == id) = true ↔ ∃ entry ∈ entries, entry.id = id := by
  simp

/-- The entry that is found has the name, and those before it do not. -/
theorem find?_goesBy_eq_some_iff {entry : NameEntry} :
    entries.find? (goesBy (Text.lowercase text)) = some entry ↔
      entry.HasName text ∧ ∃ before after, entries = before ++ entry :: after
        ∧ ∀ e ∈ before, ¬e.HasName text := by
  simp only [List.find?_eq_some_iff_append, Bool.not_eq_true', ← Bool.not_eq_true, goesBy_iff]

theorem find?_goesBy_eq_none_iff :
    entries.find? (goesBy (Text.lowercase text)) = none ↔ ∀ entry ∈ entries, ¬entry.HasName text := by
  simp [goesBy_iff]

/-- What the search through the entries gives is what the text stands for. The cases are those of
the search: a blank text, a literal whose id is there or not, a name that is found or not. -/
theorem identifies_resolveIn (entries : List NameEntry) (input : String) :
    Identifies entries (Text.trim input) (resolveIn entries input) := by
  unfold resolveIn
  generalize Text.trim input = text
  simp only
  split
  · rename_i hempty
    exact .blank (String.isEmpty_iff.1 hempty)
  · rename_i hempty
    have hne : text ≠ "" := mt String.isEmpty_iff.2 hempty
    rcases hint : Text.int64? text with _ | id
    · have hliteral := Text.int64?_eq_none_iff.1 hint
      rcases hfind : entries.find? (goesBy (Text.lowercase text)) with _ | entry
      · exact .missingName hne hliteral (find?_goesBy_eq_none_iff.1 hfind)
      · obtain ⟨hname, before, after, hentries, hbefore⟩ := find?_goesBy_eq_some_iff.1 hfind
        exact .name hne hliteral hentries hbefore hname
    · have hliteral := Text.int64?_eq_some_iff.1 hint
      simp only
      split
      · rename_i hany
        exact .id hliteral (any_id_iff.1 hany)
      · rename_i hany
        exact .missingId hliteral fun entry hentry hid => hany (any_id_iff.2 ⟨entry, hentry, hid⟩)

/-- What a text stands for is what the search gives, so that there is one answer. -/
theorem resolveIn_eq_of_identifies {input : String} {answer : Option Int64}
    (h : Identifies entries (Text.trim input) answer) : resolveIn entries input = answer := by
  unfold resolveIn
  generalize Text.trim input = text at h ⊢
  cases h with
  | blank h => rw [if_pos (String.isEmpty_iff.2 h)]
  | id hliteral h =>
    rw [if_neg (mt String.isEmpty_iff.1 hliteral.ne_empty)]
    simp only [Text.int64?_eq_some_iff.2 hliteral, if_pos (any_id_iff.2 h)]
  | missingId hliteral h =>
    have hany : ¬entries.any (·.id == _) = true := fun hany =>
      (any_id_iff.1 hany).elim fun entry hentry => h entry hentry.1 hentry.2
    rw [if_neg (mt String.isEmpty_iff.1 hliteral.ne_empty)]
    simp only [Text.int64?_eq_some_iff.2 hliteral, if_neg hany]
  | name hne hliteral hentries hbefore h =>
    rw [if_neg (mt String.isEmpty_iff.1 hne)]
    simp only [Text.int64?_eq_none_iff.2 hliteral,
      find?_goesBy_eq_some_iff.2 ⟨h, _, _, hentries, hbefore⟩, Option.map_some]
  | missingName hne hliteral h =>
    rw [if_neg (mt String.isEmpty_iff.1 hne)]
    simp only [Text.int64?_eq_none_iff.2 hliteral, find?_goesBy_eq_none_iff.2 h, Option.map_none]

/-- The search through the entries finds what the text stands for. -/
theorem resolveIn_eq_iff {input : String} {answer : Option Int64} :
    resolveIn entries input = answer ↔ Identifies entries (Text.trim input) answer := by
  constructor
  · rintro rfl
    exact identifies_resolveIn entries input
  · exact resolveIn_eq_of_identifies

/-- An id that occurs again is not counted again. -/
theorem size_ofEntries (entries : List NameEntry) :
    (ofEntries entries).size = (entries.map (·.id)).eraseDups.length := by
  have hmem : ∀ id, id ∈ (ofEntries entries).ids.toList ↔ id ∈ (entries.map (·.id)).eraseDups := by
    intro id
    rw [Std.HashSet.mem_toList, Std.HashSet.mem_iff_contains, contains_ids_ofEntries, any_id_iff,
      List.mem_eraseDups, List.mem_map]
  have hnodup : (ofEntries entries).ids.toList.Nodup :=
    Std.HashSet.distinct_toList.imp fun hne heq => by simp [heq] at hne
  -- both lists have the same ids, and neither has one twice
  rw [size, ← Std.HashSet.length_toList]
  exact ((List.perm_ext_iff_of_nodup hnodup (nodup_eraseDups _)).2 hmem).length_eq

end NameIndex

/-- A lookup over entries answers each text with what it stands for, the one id or none. So what it
answers is the id of an entry, every name that is neither blank nor a literal is answered, and its
size is the number of different ids. -/
theorem lookup_answers_as_its_entries (name : String) (entries : List NameEntry) :
    let lookup := Lookup.ofEntries name entries
    (∀ input, ∃ answer, lookup.resolve input = .ok answer
      ∧ ∀ other, Identifies entries (Text.trim input) other ↔ other = answer)
    ∧ (∀ input id, lookup.resolve input = .ok (some id) → ∃ entry ∈ entries, entry.id = id)
    ∧ (∀ entry ∈ entries, ∀ text ∈ entry.names, Text.trim text ≠ "" →
        (∀ id, ¬Text.SpellsInt64 (Text.trim text) id) → ∃ id, lookup.resolve text = .ok (some id))
    ∧ lookup.size = .ok (entries.map (·.id)).eraseDups.length := by
  intro lookup
  have hresolve : ∀ input, lookup.resolve input = .ok (NameIndex.resolveIn entries input) :=
    fun input => congrArg Except.ok (NameIndex.resolve_ofEntries entries input)
  have hidentifies := NameIndex.identifies_resolveIn entries
  refine ⟨fun input => ⟨_, hresolve input, fun other => ?_⟩, fun input id h => ?_,
    fun entry hentry text htext hne hliteral => ?_,
    congrArg Except.ok (NameIndex.size_ofEntries entries)⟩
  · rw [← NameIndex.resolveIn_eq_iff]
    exact eq_comm
  · -- only the cases with an answer are left, and in both it is an entry's id
    rw [hresolve, Except.ok.injEq, NameIndex.resolveIn_eq_iff] at h
    cases h with
    | id hliteral h => exact h
    | name hne hliteral hentries hbefore h =>
      exact ⟨_, hentries ▸ List.mem_append_right _ List.mem_cons_self, rfl⟩
  · rw [hresolve]
    rcases hanswer : NameIndex.resolveIn entries text with _ | id
    · -- the entry itself has the name
      have hnone := NameIndex.resolveIn_eq_iff.1 hanswer
      cases hnone with
      | blank h => exact absurd h hne
      | missingId hliteral' h => exact absurd hliteral' (hliteral _)
      | missingName hne hliteral h => exact absurd ⟨text, htext, rfl⟩ (h entry hentry)
    · exact ⟨id, rfl⟩

/-- Two entries with one id, a name that two entries have, a number for a name and a blank one. -/
def crowdedEntries : List NameEntry :=
  [⟨3, ["Wizard", " WIZ "]⟩, ⟨7, ["Cleric", "wiz", "3"]⟩, ⟨3, ["Mage", " "]⟩]

/-- The name of two entries is answered with the first of them, an entry whose id has been there is
known by its name all the same, and the two entries with one id count once. -/
theorem lookup_answers_as_its_entries_crowded :
    let lookup := Lookup.ofEntries "classes" crowdedEntries
    Identifies crowdedEntries (Text.trim "\tWiz") (some 3)
      ∧ lookup.resolve "\tWiz" = .ok (some 3)
      ∧ (∃ id, lookup.resolve "Mage" = .ok (some id))
      ∧ lookup.size = .ok 2 := by
  intro lookup
  obtain ⟨hresolve, -, hnames, hsize⟩ := lookup_answers_as_its_entries "classes" crowdedEntries
  have hwizard : Identifies crowdedEntries (Text.trim "\tWiz") (some 3) :=
    NameIndex.resolveIn_eq_iff.1 (by decide +kernel)
  refine ⟨hwizard, ?_, ?_, hsize⟩
  · obtain ⟨answer, hanswer, hunique⟩ := hresolve "\tWiz"
    -- the answer is unique, and this is one
    rw [hanswer, (hunique _).1 hwizard]
  · refine hnames ⟨3, ["Mage", " "]⟩ (by simp [crowdedEntries]) "Mage" List.mem_cons_self
      (by decide +kernel) ?_
    exact Text.int64?_eq_none_iff.1 (by decide +kernel)

end Compendium
