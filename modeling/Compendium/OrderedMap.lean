/-!
# Compendium — maps in insertion order

Request parameters, configured filters and the values a request gives them all have text keys,
are looked up by key, and are walked in the order in which the keys first came up. `OrderedMap` is
the list of its entries, no key twice. Writing to a present key keeps its place; a new key goes to
the end (`keys_alter`).
-/

namespace Compendium

variable {α : Type}

/-! ## Entry lists -/

namespace Entries

/-- Write `f` of the value now at `k` (`none` if the key is new) in its place, or at the end. -/
def alter (k : String) (f : Option α → α) : List (String × α) → List (String × α)
  | [] => [(k, f none)]
  | (k', v) :: rest =>
    if k' = k then (k', f (some v)) :: rest else (k', v) :: alter k f rest

/-- Writing leaves the keys as they are, or adds a new one at the end. -/
theorem map_fst_alter (k : String) (f : Option α → α) (es : List (String × α)) :
    (alter k f es).map Prod.fst
      = if k ∈ es.map Prod.fst then es.map Prod.fst else es.map Prod.fst ++ [k] := by
  induction es with
  | nil => simp [alter]
  | cons e es ih =>
    by_cases h : e.1 = k
    · simp [alter, h]
    · -- the entry is passed by, so the key is new to the whole list if it is new to the rest
      have hk : ¬ k = e.1 := fun hk => h hk.symm
      by_cases hm : k ∈ es.map Prod.fst
      · rw [if_pos hm] at ih
        simp [alter, h, ih, List.map_cons, List.mem_cons, hm]
      · rw [if_neg hm] at ih
        simp [alter, h, ih, List.map_cons, List.mem_cons, hm, hk]

/-- Writing makes no key occur twice; this is what keeps a map a map. -/
theorem nodup_alter (k : String) (f : Option α → α) {es : List (String × α)}
    (h : (es.map Prod.fst).Nodup) : ((alter k f es).map Prod.fst).Nodup := by
  rw [map_fst_alter]
  split
  · exact h
  · rename_i hk
    exact List.nodup_append.2
      ⟨h, by simp, fun a ha b hb => by rintro rfl; simp at hb; exact hk (hb ▸ ha)⟩

theorem lookup_cons_ne {k k' : String} (h : k ≠ k') (v : α) (es : List (String × α)) :
    ((k', v) :: es).lookup k = es.lookup k := by
  simp [List.lookup_cons, beq_eq_false_iff_ne.2 h]

/-- After a write at `k` the value at `k` is the new one, and everything else is as before. -/
theorem lookup_alter (k k' : String) (f : Option α → α) (es : List (String × α)) :
    (alter k f es).lookup k' = if k' = k then some (f (es.lookup k)) else es.lookup k' := by
  induction es with
  | nil =>
    by_cases h : k' = k
    · subst h; simp [alter]
    · simp [alter, lookup_cons_ne h, h]
  | cons e es ih =>
    obtain ⟨k₁, v⟩ := e
    by_cases h : k₁ = k
    · subst h
      by_cases h' : k' = k₁
      · subst h'; simp [alter]
      · simp [alter, lookup_cons_ne h', h']
    · by_cases h' : k' = k₁
      · subst h'; simp [alter, h]
      · rw [alter, if_neg h, lookup_cons_ne h', ih, lookup_cons_ne h', lookup_cons_ne (Ne.symm h)]

/-- A new key is entered at the end. -/
theorem alter_of_notMem {k : String} (f : Option α → α) {es : List (String × α)}
    (h : k ∉ es.map Prod.fst) : alter k f es = es ++ [(k, f none)] := by
  induction es with
  | nil => rfl
  | cons e es ih =>
    simp only [List.map_cons, List.mem_cons, not_or] at h
    rw [alter, if_neg (Ne.symm h.1), ih h.2]
    rfl

/-- With distinct keys, looking up and being listed are the same. -/
theorem lookup_eq_some_iff {es : List (String × α)} (h : (es.map Prod.fst).Nodup) (k : String)
    (v : α) : es.lookup k = some v ↔ (k, v) ∈ es := by
  induction es with
  | nil => simp
  | cons e es ih =>
    obtain ⟨k', v'⟩ := e
    rw [List.map_cons, List.nodup_cons] at h
    by_cases hk : k = k'
    · subst hk
      have hnot : (k, v) ∉ es := fun hm => h.1 (List.mem_map.2 ⟨_, hm, rfl⟩)
      simp [hnot, eq_comm]
    · simp [lookup_cons_ne hk, ih h.2, hk]

end Entries

/-! ## The map -/

structure OrderedMap (α : Type) where
  toList : List (String × α)
  nodup_keys : (toList.map Prod.fst).Nodup

namespace OrderedMap

/-- Two maps with the same entries are the same map. -/
@[ext] theorem ext {m m' : OrderedMap α} (h : m.toList = m'.toList) : m = m' := by
  cases m; cases m'; cases h; rfl

def empty : OrderedMap α := ⟨[], by simp⟩

instance : Inhabited (OrderedMap α) := ⟨empty⟩

def keys (m : OrderedMap α) : List String := m.toList.map Prod.fst

def get? (m : OrderedMap α) (k : String) : Option α := m.toList.lookup k

def contains (m : OrderedMap α) (k : String) : Bool := (m.get? k).isSome

def alter (m : OrderedMap α) (k : String) (f : Option α → α) : OrderedMap α :=
  ⟨Entries.alter k f m.toList, Entries.nodup_alter k f m.nodup_keys⟩

def insert (m : OrderedMap α) (k : String) (v : α) : OrderedMap α :=
  m.alter k fun _ => v

/-- The entries in order; a repeated key keeps its first place and its last value. -/
def ofList (es : List (String × α)) : OrderedMap α :=
  es.foldl (fun m e => m.insert e.1 e.2) empty

@[simp] theorem toList_empty : (empty : OrderedMap α).toList = [] := rfl

@[simp] theorem keys_empty : (empty : OrderedMap α).keys = [] := rfl

@[simp] theorem get?_empty (k : String) : (empty : OrderedMap α).get? k = none := rfl

/-- A present key keeps its place, a new one goes to the end. -/
theorem keys_alter (m : OrderedMap α) (k : String) (f : Option α → α) :
    (m.alter k f).keys = if k ∈ m.keys then m.keys else m.keys ++ [k] :=
  Entries.map_fst_alter k f m.toList

/-- A write is seen at its own key and nowhere else. -/
theorem get?_alter (m : OrderedMap α) (k k' : String) (f : Option α → α) :
    (m.alter k f).get? k' = if k' = k then some (f (m.get? k)) else m.get? k' :=
  Entries.lookup_alter k k' f m.toList

theorem keys_insert (m : OrderedMap α) (k : String) (v : α) :
    (m.insert k v).keys = if k ∈ m.keys then m.keys else m.keys ++ [k] :=
  m.keys_alter k _

theorem get?_insert (m : OrderedMap α) (k k' : String) (v : α) :
    (m.insert k v).get? k' = if k' = k then some v else m.get? k' :=
  m.get?_alter k k' _

/-- What is inserted under a new key comes last. -/
theorem toList_insert_of_notMem {m : OrderedMap α} {k : String} (v : α) (h : k ∉ m.keys) :
    (m.insert k v).toList = m.toList ++ [(k, v)] :=
  Entries.alter_of_notMem _ h

/-- Entries under new keys are appended one after the other. The induction is on the entries, for
any map that they are written into. -/
theorem toList_foldl_insert (es : List (String × α)) (m : OrderedMap α)
    (h : (m.keys ++ es.map Prod.fst).Nodup) :
    (es.foldl (fun m e => m.insert e.1 e.2) m).toList = m.toList ++ es := by
  induction es generalizing m with
  | nil => simp
  | cons e es ih =>
    have hk : e.1 ∉ m.keys := fun hm =>
      (List.nodup_append.1 h).2.2 e.1 hm e.1 (by simp) rfl
    have hkeys : (m.insert e.1 e.2).keys = m.keys ++ [e.1] := by
      rw [keys_insert, if_neg hk]
    -- the key that was written is one of those that the rest must not repeat
    rw [List.foldl_cons, ih _ (by simpa [hkeys] using h), toList_insert_of_notMem _ hk]
    simp

/-- Entries with different keys are the map's entries as they stand. -/
theorem toList_ofList {es : List (String × α)} (h : (es.map Prod.fst).Nodup) :
    (ofList es).toList = es := by
  simpa [ofList] using toList_foldl_insert es empty (by simpa using h)

/-- The keys are what can be looked up. -/
theorem get?_isSome_iff (m : OrderedMap α) (k : String) : (m.get? k).isSome ↔ k ∈ m.keys := by
  unfold get? keys
  induction m.toList with
  | nil => simp
  | cons e es ih =>
    obtain ⟨k', v⟩ := e
    by_cases h : k = k'
    · subst h; simp
    · simp [Entries.lookup_cons_ne h, h]

/-- Looking up and being listed are the same, as no key occurs twice. -/
theorem get?_eq_some_iff (m : OrderedMap α) (k : String) (v : α) :
    m.get? k = some v ↔ (k, v) ∈ m.toList :=
  Entries.lookup_eq_some_iff m.nodup_keys k v

/-- A map is its keys with what it has for each of them. -/
theorem toList_eq_map_keys {m : OrderedMap α} {f : String → α}
    (h : ∀ k ∈ m.keys, m.get? k = some (f k)) : m.toList = m.keys.map fun k => (k, f k) := by
  have hentry : ∀ e ∈ m.toList, e = (e.1, f e.1) := by
    intro e he
    have hkey : e.1 ∈ m.keys := List.mem_map.2 ⟨e, he, rfl⟩
    have hget : m.get? e.1 = some e.2 := (get?_eq_some_iff m e.1 e.2).2 he
    rw [h e.1 hkey] at hget
    rw [Option.some.inj hget]
  rw [keys, List.map_map]
  exact (List.map_id _).symm.trans (List.map_congr_left hentry)

/-- Whatever a map was made of, its entries were among that. -/
theorem mem_of_get?_ofList {es : List (String × α)} {k : String} {v : α}
    (h : (ofList es).get? k = some v) : (k, v) ∈ es := by
  have hfold : ∀ (es : List (String × α)) (m : OrderedMap α),
      (es.foldl (fun m e => m.insert e.1 e.2) m).get? k = some v →
        m.get? k = some v ∨ (k, v) ∈ es := by
    intro es
    induction es with
    | nil => exact fun m hm => .inl hm
    | cons e es ih =>
      intro m hm
      rcases ih _ hm with hm | hm
      · -- the value in the map so far is the first entry's or an earlier one
        rw [get?_insert] at hm
        split at hm
        · rename_i hk
          cases hm
          exact .inr (by simp [hk])
        · exact .inl hm
      · exact .inr (List.mem_cons_of_mem _ hm)
  exact (hfold es empty h).resolve_left (by simp)

end OrderedMap

end Compendium
