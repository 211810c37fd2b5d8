import Compendium.Proofs.QueryParams.Grouping

/-!
# Compendium — the pieces of a list

A list parameter is given as one text with commas or by repeating its key, and either way it comes in
pieces. `ParamValue.Splits` says which, without splitting: the pieces of a text are the texts without
commas that give it back when commas are put between them. A text has pieces in one way only
(`splits_iff`), and the pieces are all that a list is made of, its quotation in a message included.
The texts that come with a key are the pieces of its value, unless there are commas in them.
-/

namespace Compendium.ParamValue

/-- The parameter comes in these pieces. -/
def Splits : ParamValue → List String → Prop
  | once text, pieces =>
    pieces ≠ [] ∧ (∀ piece ∈ pieces, ',' ∉ piece.toList) ∧ text = ",".intercalate pieces
  | repeated texts, pieces => texts = pieces

/-- The pieces that are not blank, without the blanks around them. -/
def itemsOf (pieces : List String) : List String :=
  (pieces.map Text.trim).filter (!·.isEmpty)

variable {param : ParamValue} {pieces : List String}

theorem splits_iff : param.Splits pieces ↔ param.pieces = pieces := by
  cases param with
  | once text => exact Text.fields_eq_iff.symm
  | repeated texts => exact Iff.rfl

/-- The items are those of the pieces that are not blank. -/
theorem Splits.items (h : param.Splits pieces) : param.items = itemsOf pieces := by
  rw [ParamValue.items, splits_iff.1 h]
  rfl

/-- Commas between the pieces give the quotation, also of a repeated key. -/
theorem Splits.quoted (h : param.Splits pieces) : param.quoted = ",".intercalate pieces := by
  cases param with
  | once text => exact h.2.2
  | repeated texts =>
    have htexts : texts = pieces := h
    rw [← htexts]
    rfl

theorem splits_once_intercalate (hne : pieces ≠ []) (h : ∀ piece ∈ pieces, ',' ∉ piece.toList) :
    (once (",".intercalate pieces)).Splits pieces :=
  ⟨hne, h, rfl⟩

/-- However many texts there are, they are the pieces of what they make. -/
theorem splits_ofTexts (hne : pieces ≠ []) (h : ∀ piece ∈ pieces, ',' ∉ piece.toList) :
    (ofTexts pieces).Splits pieces := by
  -- a single piece is given as one text, in which there is no comma to split at
  rcases pieces with _ | ⟨first, _ | ⟨second, rest⟩⟩
  · exact absurd rfl hne
  · have hone := splits_once_intercalate hne h
    rw [String.intercalate_singleton] at hone
    exact hone
  · exact rfl

end Compendium.ParamValue
