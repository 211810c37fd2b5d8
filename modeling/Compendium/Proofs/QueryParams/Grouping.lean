import Compendium.Proofs.FirstOccurrences
import Compendium.QueryParams

/-!
# Compendium — grouping pairs

What grouping makes of a list of pairs, said without the grouping. Its keys are the different keys of
the pairs, each where it first appears (`keysOf`), and a key's value is made of the texts it comes
with, in their order (`textsOf`). Grouping takes the pairs one by one, so each law is an induction on
the pairs from the end.

* `QueryParams.toList_ofPairs` gives the entries.
* `QueryParams.get?_ofPairs` gives the value of a key.
* `QueryParams.Groups` says what it is to have grouped the pairs, and `grouping_keeps_all_but_interleaving`
  that grouping does just that: the order of the keys and the texts of each key can be read off the
  parameters, and how the keys' texts lay among each other is all that is lost.
-/

namespace Compendium

/-- The different keys of the pairs, in the order in which they first appear. -/
def keysOf (pairs : List (String × String)) : List String := (pairs.map Prod.fst).eraseDups

/-- The texts that come with a key, in order. -/
def textsOf (pairs : List (String × String)) (key : String) : List String :=
  (pairs.filter (·.1 == key)).map Prod.snd

theorem mem_keysOf {pairs : List (String × String)} {key : String} :
    key ∈ keysOf pairs ↔ key ∈ pairs.map Prod.fst :=
  List.mem_eraseDups

theorem keysOf_concat (pairs : List (String × String)) (p : String × String) :
    keysOf (pairs ++ [p])
      = if p.1 ∈ keysOf pairs then keysOf pairs else keysOf pairs ++ [p.1] := by
  rw [keysOf, List.map_append, List.map_singleton, eraseDups_concat]
  simp only [mem_keysOf]
  rfl

/-- A pair in front adds its text to those of its key. -/
theorem textsOf_cons (pair : String × String) (pairs : List (String × String)) (key : String) :
    textsOf (pair :: pairs) key
      = if pair.1 = key then pair.2 :: textsOf pairs key else textsOf pairs key := by
  rw [textsOf, List.filter_cons]
  split
  · rename_i hkey
    rw [if_pos (beq_iff_eq.1 hkey)]
    rfl
  · rename_i hkey
    rw [if_neg (fun heq => hkey (beq_iff_eq.2 heq))]
    rfl

/-- A key has one text for each time it is given. -/
theorem length_textsOf (pairs : List (String × String)) (key : String) :
    (textsOf pairs key).length = (pairs.map Prod.fst).count key := by
  rw [textsOf, List.length_map, List.count, List.countP_map, List.countP_eq_length_filter]
  rfl

/-- A pair at the end adds its text to those of its key. -/
theorem textsOf_concat (pairs : List (String × String)) (p : String × String) (key : String) :
    textsOf (pairs ++ [p]) key
      = if key = p.1 then textsOf pairs key ++ [p.2] else textsOf pairs key := by
  unfold textsOf
  rw [List.filter_append, List.map_append]
  split
  · rename_i h
    simp [h]
  · rename_i h
    simp [Ne.symm h]

/-- The keys are those that come with a text. -/
theorem textsOf_eq_nil_iff {pairs : List (String × String)} {key : String} :
    textsOf pairs key = [] ↔ key ∉ keysOf pairs := by
  rw [mem_keysOf, textsOf, List.map_eq_nil_iff, List.filter_eq_nil_iff]
  simp only [beq_iff_eq, List.mem_map, not_exists, not_and]

namespace ParamValue

/-- A single text is taken as one; several stay apart. -/
def ofTexts : List String → ParamValue
  | [text] => .once text
  | texts => .repeated texts

/-- One more text makes of a value what one more occurrence of its key makes of it. -/
theorem ofTexts_concat {texts : List String} (h : texts ≠ []) (next : String) :
    ofTexts (texts ++ [next]) = (ofTexts texts).again next := by
  rcases texts with _ | ⟨first, _ | ⟨second, rest⟩⟩
  · exact absurd rfl h
  · rfl
  · rfl

/-- The value stands for these texts: a single one as it is, two or more in their order. -/
def Holds : ParamValue → List String → Prop
  | once text, texts => texts = [text]
  | repeated kept, texts => 2 ≤ texts.length ∧ kept = texts

/-- There is one value for a list of texts, unless it is empty. -/
theorem holds_iff {value : ParamValue} {texts : List String} :
    value.Holds texts ↔ texts ≠ [] ∧ value = ofTexts texts := by
  rcases texts with _ | ⟨first, _ | ⟨second, rest⟩⟩ <;> cases value <;> simp [Holds, ofTexts, eq_comm]

/-- A list of one text is never mistaken for a single text. -/
theorem ofTexts_injective : Function.Injective ofTexts := by
  intro texts texts' h
  rcases texts with _ | ⟨first, _ | ⟨second, rest⟩⟩ <;>
    rcases texts' with _ | ⟨first', _ | ⟨second', rest'⟩⟩ <;> simp_all [ofTexts]

end ParamValue

namespace QueryParams

theorem ofPairs_concat (pairs : List (String × String)) (p : String × String) :
    ofPairs (pairs ++ [p]) = (ofPairs pairs).add p := by
  rw [ofPairs_append]
  rfl

/-- Grouping keeps the keys in the order in which they first appear. -/
theorem keys_ofPairs (pairs : List (String × String)) : (ofPairs pairs).keys = keysOf pairs := by
  -- grouping goes from the left, so the last pair is the one to take off
  induction pairs using List.reverseRecOn with
  | nil => rfl
  | append_singleton pairs p ih =>
    rw [ofPairs_concat, add, OrderedMap.keys_alter, ih, keysOf_concat]

/-- Grouping gives a key the texts it comes with. -/
theorem get?_ofPairs (pairs : List (String × String)) (key : String) :
    (ofPairs pairs).get? key
      = if key ∈ keysOf pairs then some (.ofTexts (textsOf pairs key)) else none := by
  induction pairs using List.reverseRecOn with
  | nil => rfl
  | append_singleton pairs p ih =>
    rw [ofPairs_concat, add, OrderedMap.get?_alter, keysOf_concat, textsOf_concat]
    by_cases hkey : key = p.1
    · subst hkey
      rw [if_pos rfl, if_pos rfl, ih]
      -- a key that was there takes one more text, a new one starts with it
      by_cases hmem : p.1 ∈ keysOf pairs
      · have hne : textsOf pairs p.1 ≠ [] := fun h => textsOf_eq_nil_iff.1 h hmem
        rw [if_pos hmem, if_pos hmem, if_pos hmem, ParamValue.ofTexts_concat hne]
      · have hnil : textsOf pairs p.1 = [] := textsOf_eq_nil_iff.2 hmem
        rw [if_neg hmem, if_neg hmem, if_pos (by simp), hnil]
        rfl
    · rw [if_neg hkey, if_neg hkey, ih]
      by_cases hmem : p.1 ∈ keysOf pairs
      · rw [if_pos hmem]
      · rw [if_neg hmem]
        simp [hkey]

/-- The parameters are the keys in order, each with what its texts make. -/
theorem toList_ofPairs (pairs : List (String × String)) :
    (ofPairs pairs).toList
      = (keysOf pairs).map fun key => (key, ParamValue.ofTexts (textsOf pairs key)) := by
  rw [← keys_ofPairs]
  refine OrderedMap.toList_eq_map_keys fun key hkey => ?_
  rw [keys_ofPairs] at hkey
  rw [get?_ofPairs, if_pos hkey]

/-- The parameters are the pairs, grouped: the different keys where they first appear, and for each of
them its own texts. A key can be looked up as well as come upon. -/
structure Groups (params : QueryParams) (pairs : List (String × String)) : Prop where
  keys : FirstOccurrences (pairs.map Prod.fst) params.keys
  entry : ∀ key value, (key, value) ∈ params.toList ↔ value.Holds (textsOf pairs key)
  look : ∀ key value, params.get? key = some value ↔ (key, value) ∈ params.toList

theorem groups_ofPairs (pairs : List (String × String)) : (ofPairs pairs).Groups pairs := by
  refine ⟨firstOccurrences_iff.2 (keys_ofPairs pairs), fun key value => ?_,
    OrderedMap.get?_eq_some_iff _⟩
  rw [← OrderedMap.get?_eq_some_iff, get?_ofPairs, ParamValue.holds_iff, ne_eq, textsOf_eq_nil_iff,
    not_not]
  split
  · rename_i hmem
    rw [Option.some.injEq, eq_comm]
    exact (and_iff_right hmem).symm
  · rename_i hmem
    exact iff_of_false (Option.some_ne_none _).symm fun h => hmem h.1

/-- There is one way to group pairs. -/
theorem Groups.eq_ofPairs {params : QueryParams} {pairs : List (String × String)}
    (h : params.Groups pairs) : params = ofPairs pairs := by
  have hkeys : params.keys = keysOf pairs := firstOccurrences_iff.1 h.keys
  apply OrderedMap.ext
  rw [toList_ofPairs, ← hkeys]
  refine OrderedMap.toList_eq_map_keys fun key hkey => ?_
  rw [h.look, h.entry, ParamValue.holds_iff]
  rw [hkeys] at hkey
  exact ⟨fun hnil => textsOf_eq_nil_iff.1 hnil hkey, rfl⟩

/-- Keys and texts are all that grouping keeps of the pairs. -/
theorem ofPairs_eq_iff {xs ys : List (String × String)} :
    ofPairs xs = ofPairs ys ↔ keysOf xs = keysOf ys ∧ ∀ key, textsOf xs key = textsOf ys key := by
  constructor
  · intro h
    have hkeys : keysOf xs = keysOf ys := by rw [← keys_ofPairs, ← keys_ofPairs, h]
    refine ⟨hkeys, fun key => ?_⟩
    -- a key that does not appear has no texts on either side
    by_cases hmem : key ∈ keysOf xs
    · have hget : (ofPairs xs).get? key = (ofPairs ys).get? key := by rw [h]
      rw [get?_ofPairs, get?_ofPairs, if_pos hmem, if_pos (hkeys ▸ hmem)] at hget
      exact ParamValue.ofTexts_injective (Option.some.inj hget)
    · rw [textsOf_eq_nil_iff.2 hmem, textsOf_eq_nil_iff.2 (hkeys ▸ hmem)]
  · rintro ⟨hkeys, htexts⟩
    apply OrderedMap.ext
    rw [toList_ofPairs, toList_ofPairs, hkeys]
    simp only [htexts]

end QueryParams

/-- Grouping gives the parameters that group the pairs, and no others do. Pairs that follow are added
to the parameters one by one. So pairs are grouped alike just when the same keys first appear in the
same order and each key comes with the same texts in the same order. -/
theorem grouping_keeps_all_but_interleaving (pairs : List (String × String)) :
    (∀ params : QueryParams, params.Groups pairs ↔ params = .ofPairs pairs)
      ∧ (∀ more, QueryParams.ofPairs (pairs ++ more) = more.foldl .add (.ofPairs pairs))
      ∧ ∀ others, QueryParams.ofPairs pairs = .ofPairs others ↔
        keysOf pairs = keysOf others ∧ ∀ key, textsOf pairs key = textsOf others key := by
  refine ⟨fun params => ⟨fun h => h.eq_ofPairs, ?_⟩, fun more => QueryParams.ofPairs_append pairs more,
    fun others => QueryParams.ofPairs_eq_iff⟩
  rintro rfl
  exact QueryParams.groups_ofPairs pairs

/-- The second school comes to the first one, past the name. -/
example :
    (QueryParams.ofPairs [("school", "1"), ("name", "fire"), ("school", "2")]).toList
      = [("school", .repeated ["1", "2"]), ("name", .once "fire")] := by decide

end Compendium
