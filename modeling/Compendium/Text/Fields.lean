/-!
# Compendium — separated fields

Lists inside one text are written with a separator between the items. Splitting is the inverse of
writing: a text with n separators has n + 1 fields, some of them possibly empty, and writing the
fields with the separator between them gives the text back. No other fields without the separator in
them do (`fields_eq_iff`).
-/

namespace Compendium.Text

/-- The characters between the separators, in order. -/
def fieldsOf (sep : Char) : List Char → List (List Char)
  | [] => [[]]
  | c :: cs =>
    if c = sep then [] :: fieldsOf sep cs
    else match fieldsOf sep cs with
      | [] => [[c]]
      | field :: rest => (c :: field) :: rest

/-- The texts between the separators, in order. -/
def fields (sep : Char) (s : String) : List String :=
  (fieldsOf sep s.toList).map String.ofList

/-- A text as its field before the first separator and all that follows it, if there is one. -/
def cutFirst (sep : Char) (cs : List Char) : List Char × List Char :=
  (cs.takeWhile (· ≠ sep), (cs.dropWhile (· ≠ sep)).drop 1)

theorem fieldsOf_ne_nil (sep : Char) (cs : List Char) : fieldsOf sep cs ≠ [] := by
  cases cs with
  | nil => simp [fieldsOf]
  | cons c cs =>
    by_cases h : c = sep
    · simp [fieldsOf, h]
    · simp only [fieldsOf, h, if_false]
      split <;> simp

/-- The fields are what splitting a list at the separator gives. -/
theorem fieldsOf_eq_splitOn (sep : Char) (cs : List Char) : fieldsOf sep cs = cs.splitOn sep := by
  induction cs with
  | nil => rw [fieldsOf, List.splitOn_nil]
  | cons c cs ih =>
    rw [fieldsOf, List.splitOn_cons_eq_if_modifyHead, ← ih]
    by_cases hc : c = sep
    · simp [hc]
    · rcases hf : fieldsOf sep cs with _ | ⟨field, rest⟩
      · exact absurd hf (fieldsOf_ne_nil sep cs)
      · simp [hc]

theorem not_mem_of_mem_fieldsOf {sep : Char} {cs field : List Char} (h : field ∈ fieldsOf sep cs) :
    sep ∉ field := by
  induction cs generalizing field with
  | nil =>
    rw [fieldsOf, List.mem_singleton] at h
    rw [h]
    exact List.not_mem_nil
  | cons c cs ih =>
    rw [fieldsOf] at h
    split at h
    · rcases List.mem_cons.1 h with rfl | hrest
      · exact List.not_mem_nil
      · exact ih hrest
    · rename_i hc
      split at h
      · rename_i hnil
        exact absurd hnil (fieldsOf_ne_nil sep cs)
      · -- the first field has grown by a character that is no separator
        rename_i first rest hcons
        rcases List.mem_cons.1 h with rfl | hrest
        · have hfirst : sep ∉ first := ih (by simp [hcons])
          simp [Ne.symm hc, hfirst]
        · exact ih (by simp [hcons, hrest])

/-- The characters of the fields, as the library splits lists. -/
theorem map_toList_fields (sep : Char) (s : String) :
    (fields sep s).map String.toList = s.toList.splitOn sep := by
  simp [fields, Function.comp_def, fieldsOf_eq_splitOn]

/-- The fields of a text are the one way to write it with separators between texts without any. -/
theorem fields_eq_iff {sep : Char} {s : String} {pieces : List String} :
    fields sep s = pieces ↔ pieces ≠ [] ∧ (∀ piece ∈ pieces, sep ∉ piece.toList)
      ∧ s = (String.singleton sep).intercalate pieces := by
  constructor
  · rintro rfl
    refine ⟨?_, fun piece hpiece => ?_, ?_⟩
    · simpa [fields] using fieldsOf_ne_nil sep s.toList
    · obtain ⟨field, hfield, rfl⟩ := List.mem_map.1 hpiece
      rw [String.toList_ofList]
      exact not_mem_of_mem_fieldsOf hfield
    · apply String.toList_injective
      rw [String.toList_intercalate, String.toList_singleton, map_toList_fields,
        List.intercalate_splitOn]
  · rintro ⟨hne, hpieces, rfl⟩
    -- joining and splitting again gives the pieces, as long as no separator is in them
    have hsplit : ((String.singleton sep).intercalate pieces).toList.splitOn sep
        = pieces.map String.toList := by
      rw [String.toList_intercalate, String.toList_singleton]
      apply List.splitOn_intercalate
      · simpa using hpieces
      · simpa using hne
    apply (List.map_inj_right fun _ _ h => String.toList_injective h).1
    rw [map_toList_fields, hsplit]

end Compendium.Text
