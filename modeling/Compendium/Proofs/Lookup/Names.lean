import Std.Data.HashMap.Lemmas
import Std.Data.HashSet.Lemmas
import Compendium.Lookup.Index

/-!
# Compendium — what an index answers

An index answers as its entries would if they were read from the front. An integer is answered with
itself if some entry has that id, and any other text with the id of the first entry that goes by it.
Each law follows the entries one by one as they are put into the index.

* `NameIndex.contains_ids_ofEntries` and `NameIndex.getElem?_byName_ofEntries` say what the two
  halves of an index hold.
* `NameIndex.resolve_ofEntries` is the answer to a text.
-/

namespace Compendium.NameIndex

/-- The entry goes by the name, which is given in the form in which names are compared. -/
def goesBy (key : String) (entry : NameEntry) : Bool := entry.names.any (nameKey · == key)

/-- The answer of the entries themselves. -/
def resolveIn (entries : List NameEntry) (input : String) : Option Int64 :=
  let text := Text.trim input
  if text.isEmpty then none
  else match Text.int64? text with
    | some id => if entries.any (·.id == id) then some id else none
    | none => (entries.find? (goesBy (Text.lowercase text))).map (·.id)

/-! ## Ids -/

/-- Entering the entries adds their ids to those that are there. The induction is on the entries,
for any index that they are entered into. -/
theorem contains_ids_foldl_add (entries : List NameEntry) (index : NameIndex) (id : Int64) :
    (entries.foldl add index).ids.contains id
      = (index.ids.contains id || entries.any (·.id == id)) := by
  induction entries generalizing index with
  | nil => simp
  | cons entry entries ih =>
    rw [List.foldl_cons, ih, List.any_cons, add, Std.HashSet.contains_insert, ← Bool.or_assoc]
    congr 1
    exact Bool.or_comm _ _

/-- The ids of an index are those of its entries. -/
theorem contains_ids_ofEntries (entries : List NameEntry) (id : Int64) :
    (ofEntries entries).ids.contains id = entries.any (·.id == id) := by
  rw [ofEntries, contains_ids_foldl_add]
  simp [empty]

/-! ## Names

A name that is there already stays with its entry, so what is put in adds an answer only where there
was none. -/

variable {key : String}

/-- A name that is entered answers for itself, unless there is an answer already. -/
theorem getElem?_addName (hkey : key ≠ "") (id : Int64) (byName : Std.HashMap String Int64)
    (name : String) :
    (addName id byName name)[key]?
      = byName[key]?.or (if nameKey name == key then some id else none) := by
  show (if (nameKey name).isEmpty then byName else byName.insertIfNew (nameKey name) id)[key]? = _
  by_cases hname : nameKey name = key
  · have hnonempty : ¬(nameKey name).isEmpty = true := by simpa [hname] using hkey
    rw [if_neg hnonempty, hname, if_pos (beq_self_eq_true key), Std.HashMap.getElem?_insertIfNew]
    -- the key is new exactly if there was no answer yet
    by_cases hmem : key ∈ byName
    · rw [if_neg (fun h => h.2 hmem), Std.HashMap.getElem?_eq_some_getElem hmem]
      rfl
    · rw [if_pos ⟨beq_self_eq_true key, hmem⟩, Std.HashMap.getElem?_eq_none hmem]
      rfl
  · rw [if_neg (fun h => hname (beq_iff_eq.1 h)), Option.or_none]
    split
    · rfl
    · rw [Std.HashMap.getElem?_insertIfNew, if_neg (fun h => hname (beq_iff_eq.1 h.1))]

/-- The names of one entry all give its id, where there was no answer before. -/
theorem getElem?_foldl_addName (hkey : key ≠ "") (id : Int64) (names : List String)
    (byName : Std.HashMap String Int64) :
    (names.foldl (addName id) byName)[key]?
      = byName[key]?.or (if names.any (nameKey · == key) then some id else none) := by
  induction names generalizing byName with
  | nil => simp
  | cons name names ih =>
    rw [List.foldl_cons, ih, getElem?_addName hkey, Option.or_assoc, List.any_cons]
    -- whether the first of the names is the one that is asked for
    cases nameKey name == key with
    | false => simp
    | true => simp

/-- The entries answer in their order, after what was there before them. -/
theorem getElem?_byName_foldl_add (hkey : key ≠ "") (entries : List NameEntry)
    (index : NameIndex) :
    (entries.foldl add index).byName[key]?
      = index.byName[key]?.or ((entries.find? (goesBy key)).map (·.id)) := by
  induction entries generalizing index with
  | nil => simp
  | cons entry entries ih =>
    have hadd : (index.add entry).byName[key]?
        = index.byName[key]?.or (if goesBy key entry then some entry.id else none) :=
      getElem?_foldl_addName hkey entry.id entry.names index.byName
    rw [List.foldl_cons, ih, hadd, Option.or_assoc, List.find?_cons]
    -- an entry that goes by the name answers before those behind it
    cases goesBy key entry with
    | false => simp
    | true => simp

/-- A name is answered with the first entry that goes by it. -/
theorem getElem?_byName_ofEntries (hkey : key ≠ "") (entries : List NameEntry) :
    (ofEntries entries).byName[key]? = (entries.find? (goesBy key)).map (·.id) := by
  rw [ofEntries, getElem?_byName_foldl_add hkey]
  simp [empty]

/-! ## Texts -/

/-- Lowercase leaves no character out. -/
theorem lowercase_ne_empty {text : String} (h : text.isEmpty = false) :
    Text.lowercase text ≠ "" := by
  rcases hcs : text.toList with _ | ⟨c, cs⟩
  · have hempty : text = "" := String.toList_injective hcs
    rw [hempty] at h
    cases h
  · intro hlower
    have hnil : Text.lowercaseAfter [] (c :: cs) = [] := by
      rw [← hcs]
      simpa [Text.lowercase] using hlower
    rw [Text.lowercaseAfter, List.append_eq_nil_iff] at hnil
    -- the first character alone comes to one or two
    have hfirst := hnil.1
    unfold Text.lowercaseChar at hfirst
    split at hfirst
    · cases hfirst
    · split at hfirst
      · cases hfirst
      · split at hfirst <;> cases hfirst

/-- An index answers as its entries do. -/
theorem resolve_ofEntries (entries : List NameEntry) (input : String) :
    (ofEntries entries).resolve input = resolveIn entries input := by
  unfold resolve resolveIn
  simp only
  split
  · rfl
  · rename_i hnonempty
    cases Text.int64? (Text.trim input) with
    | some id =>
      -- a literal is looked up among the ids and never among the names
      simp only [contains_ids_ofEntries]
    | none =>
      have hkey : Text.lowercase (Text.trim input) ≠ "" :=
        lowercase_ne_empty (by simpa using hnonempty)
      exact getElem?_byName_ofEntries hkey entries

end Compendium.NameIndex
