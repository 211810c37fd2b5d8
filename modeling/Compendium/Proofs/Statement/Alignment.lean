import Compendium.Proofs.Statement.Texts

/-!
# Compendium — page queries bind their values in order

A page query collects the values of its conditions, of its group conditions, the limit and the
offset from different places. If no text that the listing declares has a question mark, the query's
text and its values are aligned: the i-th mark stands where the tree has the i-th value.

`marks_and_values_aligned` is the law for lists of predicates, nested to any depth, and for page
queries.
-/

namespace Compendium

/-- The marks of a list of predicates stand for its values, in number and in order; and so do those
of every page query of a listing free of marks, with the values of the conditions first, then those
of the group conditions, the limit and the offset. -/
theorem marks_and_values_aligned (κ : Type) [ColumnText κ] :
    (∀ ps : List (Predicate κ), (∀ p ∈ ps, p.MarkFree) →
      Aligned (Predicate.conjunction ps).sql (Predicate.conjunction ps).values
          (fun write => " AND ".intercalate (ps.map (Predicate.written write)))
        ∧ (Predicate.conjunction ps).values.length = Predicate.holeCounts ps)
    ∧ ∀ listing : Listing, listing.MarkFree → ∀ (request : ListRequest) (backend : Backend),
        request.isValid → backend ≠ .postgres →
          ∃ q, listing.pageQuery request backend = .ok q
            ∧ Aligned q.sql q.values (fun write => q.select.written write backend)
            ∧ q.values = (Predicate.conjunction q.select.conditions).values
                ++ (Predicate.conjunction q.select.having).values
                ++ [.int (Word.toParam request.pagination.limit),
                  .int (Word.toParam request.pagination.offset)] := by
  refine ⟨fun ps h => ⟨Predicate.aligned_conjunction h, Predicate.length_values_conjunction ps⟩,
    fun listing h request backend hvalid hbackend => ?_⟩
  refine ⟨_, Listing.pageQuery_of_isValid hvalid hbackend, ?_, ?_⟩
  · exact Select.aligned (Listing.markFree_select h request backend)
  · show ((listing.select request).fragment backend).values = _
    rw [Select.values_fragment, Predicate.values_conjunction, Predicate.values_conjunction]
    rfl

/-- A name like a pattern, or a place among those of two kinds that an entry has both of. -/
def Predicate.nestedSample : Predicate String :=
  .anyOf
    [ .like "e.name" (.text "%why?%"),
      .rowExists ⟨"entry_places", "ep"⟩ "ep.entry_id" "e.entry_id"
        [.isIn "ep.place_id" [.int 3, .int 5], .fixed "ep.display" 1]
        (some "ep.entry_id") (some (.countDistinct "ep.place_id" 2)) ]

/-- The third page of the spells of any of two classes whose name is like a pattern. -/
def Spells.namedLike (pattern : String) : ListRequest where
  selection :=
    { values := .ofList [("classId", .list [.int 1, .int 2]), ("name", .single (.text pattern))]
      quantifiers := .empty
      search := none }
  pagination := ⟨3, 20⟩
  sort := ⟨"spell_name", .ascending⟩
  errors := []
  alternate := true

/-- No text that spells declare has a mark, and their one rule writes the column that it is given.
-/
theorem Spells.markFree {listing : Listing} (h : declaration.build = .ok listing) :
    listing.MarkFree := by
  have hbuilt := Declaration.builtInto_of_build h
  have htexts : listing.texts
      = declaration.entity.texts ++ declaration.filters.flatMap (·.2.texts)
        ++ declaration.sortKeys.flatMap (·.texts) ++ declaration.summaries.flatMap (·.texts) := by
    rw [Listing.texts, hbuilt.entity, hbuilt.filters, hbuilt.sortKeys, hbuilt.summaries,
      List.flatMap_map]
  refine ⟨?_, ?_⟩
  · rw [htexts]
    decide +kernel
  · intro key filter column rule hf htarget
    rw [usesOnlyEditionRule h key filter column rule hf htarget]
    exact fun c v hc => markFree_editionRule c v hc

/-- A pattern with a mark in it does not get in the way of the values that follow it. -/
theorem marks_and_values_aligned_pattern_with_mark :
    Aligned (Predicate.conjunction [Predicate.nestedSample]).sql
        [.text "%why?%", .int 3, .int 5, .int 2]
        (fun write => " AND ".intercalate ([Predicate.nestedSample].map (Predicate.written write)))
      ∧ ∃ listing, Spells.declaration.build = .ok listing ∧ listing.MarkFree
        ∧ ∃ q, listing.pageQuery (Spells.namedLike "%why?%") .mysql = .ok q
          ∧ Aligned q.sql q.values (fun write => q.select.written write .mysql)
          ∧ q.values = (Predicate.conjunction q.select.conditions).values
              ++ (Predicate.conjunction q.select.having).values ++ [.int 20, .int 40] := by
  obtain ⟨listing, hbuild⟩ := Resource.spells.exists_build
  -- the mark in the pattern is in a value, and only the texts must be free of marks
  have hmarkFree : ∀ p ∈ [Predicate.nestedSample], p.MarkFree := by
    rw [List.forall_mem_singleton]
    unfold Predicate.MarkFree
    decide
  refine ⟨((marks_and_values_aligned String).1 _ hmarkFree).1, listing, hbuild,
    Spells.markFree hbuild, ?_⟩
  exact (marks_and_values_aligned String).2 listing (Spells.markFree hbuild)
    (Spells.namedLike "%why?%") .mysql rfl (by decide)

end Compendium
