import Mathlib.Data.List.Induction
import Mathlib.Data.List.Nodup

/-!
# Compendium — first occurrences

The keys of a query string, the values of a filter and the keys of a search lose their repetitions,
and each time the first of equal members stays where it is. `FirstOccurrences` says what is left
without saying how: the same members, in the order in which they first occur, so that none is left
twice. There is one such list (`firstOccurrences_iff`).
-/

namespace Compendium

variable {α : Type} [BEq α] {all kept : List α}

/-- `kept` has the members of `all`, each once and in the order in which they first occur. -/
structure FirstOccurrences (all kept : List α) : Prop where
  mem_iff : ∀ x, x ∈ kept ↔ x ∈ all
  inOrder : kept.Pairwise fun x y => all.idxOf x < all.idxOf y

/-- What comes earlier in the list is something else. -/
theorem FirstOccurrences.nodup (h : FirstOccurrences all kept) : kept.Nodup := by
  refine h.inOrder.imp fun hlt heq => ?_
  rw [heq] at hlt
  exact Nat.lt_irrefl _ hlt

variable [LawfulBEq α]

/-- The last member is left unless it has occurred before. -/
theorem eraseDups_concat (xs : List α) (x : α) :
    (xs ++ [x]).eraseDups = if x ∈ xs then xs.eraseDups else xs.eraseDups ++ [x] := by
  rw [List.eraseDups_append]
  split
  · rename_i hmem
    simp [List.removeAll, hmem]
  · rename_i hmem
    simp [List.removeAll, hmem, List.eraseDups_cons]

/-- What has occurred before may as well not come again. -/
theorem eraseDups_append_filter {xs ys : List α} {p : α → Bool}
    (h : ∀ y ∈ ys, p y = false → y ∈ xs) : (xs ++ ys.filter p).eraseDups = (xs ++ ys).eraseDups := by
  have hrest : (ys.filter p).removeAll xs = ys.removeAll xs := by
    rw [List.removeAll, List.removeAll, List.filter_filter]
    refine List.filter_congr fun y hy => ?_
    cases hp : p y with
    | true => rw [Bool.and_true]
    | false => simp [h y hy hp]
  rw [List.eraseDups_append, List.eraseDups_append, hrest]

/-- What is left is in the order in which it first occurs. The induction is from the end, for the
last member is the one that may have to go. -/
theorem inOrder_eraseDups (xs : List α) :
    xs.eraseDups.Pairwise fun x y => xs.idxOf x < xs.idxOf y := by
  induction xs using List.reverseRecOn with
  | nil => simp
  | append_singleton xs x ih =>
    -- members of the front are found where they were
    have hfront : ∀ y ∈ xs, (xs ++ [x]).idxOf y = xs.idxOf y := fun y hy =>
      List.idxOf_append_of_mem hy
    have hkept : xs.eraseDups.Pairwise fun y z => (xs ++ [x]).idxOf y < (xs ++ [x]).idxOf z := by
      refine ih.imp_of_mem fun hy hz hlt => ?_
      rw [hfront _ (List.mem_eraseDups.1 hy), hfront _ (List.mem_eraseDups.1 hz)]
      exact hlt
    rw [eraseDups_concat]
    split
    · exact hkept
    · rename_i hx
      refine List.pairwise_append.2 ⟨hkept, List.pairwise_singleton _ _, fun y hy z hz => ?_⟩
      rw [List.mem_singleton.1 hz, hfront y (List.mem_eraseDups.1 hy), List.idxOf_append, if_neg hx]
      -- a member of the front is found before the end
      have hlt : xs.idxOf y < xs.length := List.idxOf_lt_length_iff.2 (List.mem_eraseDups.1 hy)
      omega

/-- Erasing repetitions leaves the first occurrences. -/
theorem firstOccurrences_eraseDups (xs : List α) : FirstOccurrences xs xs.eraseDups :=
  ⟨fun _ => List.mem_eraseDups, inOrder_eraseDups xs⟩

/-- Nothing is left twice. -/
theorem nodup_eraseDups (xs : List α) : xs.eraseDups.Nodup :=
  (firstOccurrences_eraseDups xs).nodup

/-- The first occurrences are one list and no other: the members are given, and so is their order.
-/
theorem firstOccurrences_iff : FirstOccurrences all kept ↔ kept = all.eraseDups := by
  constructor
  · intro h
    have herased := firstOccurrences_eraseDups all
    have hperm : kept.Perm all.eraseDups := by
      rw [List.perm_ext_iff_of_nodup h.nodup herased.nodup]
      exact fun x => (h.mem_iff x).trans (herased.mem_iff x).symm
    -- two lists of the same members that are both in this order are one
    refine hperm.eq_of_pairwise (fun x y _ _ hlt hgt => ?_) h.inOrder herased.inOrder
    exact absurd hgt (Nat.lt_asymm hlt)
  · rintro rfl
    exact firstOccurrences_eraseDups all

end Compendium
