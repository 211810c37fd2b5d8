import Compendium.Paging
import Compendium.Proofs.Statement.Marks

/-!
# Compendium — ranges of items

The Content-Range header is computed from words that stop at their ends, and reads as if it were
computed from numbers that do not. A page that starts at or past the total has no range
(`contentRange_of_le`); the range of any other ends where the page or the whole list does, whichever
comes first (`contentRange_of_lt`), which is where its items end (`contentRange_of_items`).

Whatever the name, the text has only printable characters (`printable_contentRange`), so that it is
taken for a header's value and nothing in the name can start another header.
`contentRange_by_exact_arithmetic` puts the header and its numbers together.
-/

namespace Compendium

theorem Word.toNat_min (a b : UInt64) : (min a b).toNat = min a.toNat b.toNat := by
  show (if a ≤ b then a else b).toNat = _
  split
  · rename_i h
    have hle : a.toNat ≤ b.toNat := UInt64.le_iff_toNat_le.1 h
    omega
  · rename_i h
    rw [UInt64.le_iff_toNat_le] at h
    omega

variable {offset limit total : UInt64} {name : String}

/-- No item is on a page past the last one. -/
theorem contentRange_of_le (h : total ≤ offset) :
    contentRange offset limit total name = headerSafe name ++ " */" ++ toString total.toNat := by
  rw [contentRange, if_pos h]

/-- The words give the range that numbers without a largest one would give. -/
theorem contentRange_of_lt (h : offset.toNat < total.toNat) :
    contentRange offset limit total name
      = headerSafe name ++ " " ++ toString offset.toNat ++ "-"
        ++ toString (min (offset.toNat + limit.toNat) total.toNat - 1)
        ++ "/" ++ toString total.toNat := by
  have hnot : ¬total ≤ offset := by
    rw [UInt64.le_iff_toNat_le]
    omega
  -- an end that stops at the largest word lies past the total
  have hlast : (min (Word.sub (Word.add offset limit) 1) (Word.sub total 1)).toNat
      = min (offset.toNat + limit.toNat) total.toNat - 1 := by
    have htotal : total.toNat ≤ maxUInt64 := toNat_le_maxUInt64 total
    rw [Word.toNat_min, Word.toNat_sub, Word.toNat_sub, Word.toNat_add]
    show min (min _ _ - 1) (_ - 1) = _
    omega
  rw [contentRange, if_neg hnot, ← hlast]

/-- The range of a page with items: exact arithmetic gives its ends. -/
theorem contentRange_of_items {p : Pagination} {total : UInt64} (name : String) {items : Nat}
    (hitems : items = min p.limit.toNat (total.toNat - (p.page.toNat - 1) * p.limit.toNat))
    (hpos : 0 < items) :
    ∃ last, last + 1 = (p.page.toNat - 1) * p.limit.toNat + items
      ∧ contentRange p.offset p.limit total name
        = headerSafe name ++ " " ++ toString ((p.page.toNat - 1) * p.limit.toNat) ++ "-"
          ++ toString last ++ "/" ++ toString total.toNat := by
  have htotal : total.toNat ≤ maxUInt64 := toNat_le_maxUInt64 total
  have hoffset : p.offset.toNat = (p.page.toNat - 1) * p.limit.toNat := by
    rw [Pagination.toNat_offset]
    omega
  have hlt : p.offset.toNat < total.toNat := by omega
  refine ⟨min (p.offset.toNat + p.limit.toNat) total.toNat - 1, by omega, ?_⟩
  rw [contentRange_of_lt hlt, hoffset]

/-! ## The text as a header's value -/

/-- ASCII without its control characters. -/
def IsPrintable (c : Char) : Prop := 32 ≤ c.toNat ∧ c.toNat ≤ 126

instance (c : Char) : Decidable (IsPrintable c) := by unfold IsPrintable; infer_instance

def Printable (s : String) : Prop := ∀ c ∈ s.toList, IsPrintable c

instance (s : String) : Decidable (Printable s) :=
  List.decidableBAll (fun c => IsPrintable c) s.toList

/-- The printable characters of a text, in order. -/
def printablePart (s : String) : String := String.ofList (s.toList.filter (IsPrintable ·))

/-- What a header keeps of a text is its printable part. -/
theorem headerSafe_eq (s : String) : headerSafe s = printablePart s := by
  rw [headerSafe, printablePart]
  congr 1
  exact List.filter_congr fun c _ => (Bool.decide_and _ _).symm

/-- Printable texts stay printable when they are put together. -/
theorem printable_append {s t : String} : Printable (s ++ t) ↔ Printable s ∧ Printable t := by
  simp only [Printable, String.toList_append, List.forall_mem_append]

theorem printable_printablePart (s : String) : Printable (printablePart s) := by
  intro c hc
  rw [printablePart, String.toList_ofList, List.mem_filter] at hc
  exact of_decide_eq_true hc.2

theorem printable_toString (n : Nat) : Printable (toString n) := by
  intro c hc
  have hdigit : c.isDigit = true := isDigit_of_mem_natRepr hc
  -- digits lie between 48 and 57
  simp only [Char.isDigit, ge_iff_le, Bool.and_eq_true, decide_eq_true_eq,
    UInt32.le_iff_toNat_le] at hdigit
  exact ⟨Nat.le_trans (by decide) hdigit.1, Nat.le_trans hdigit.2 (by decide)⟩

/-- Whatever is put into the header is printable: the name because it was filtered, the rest as it
is. -/
theorem printable_contentRange (offset limit total : UInt64) (name : String) :
    Printable (contentRange offset limit total name) := by
  have hname : Printable (headerSafe name) := by
    rw [headerSafe_eq]
    exact printable_printablePart name
  have hsigns : Printable " */" ∧ Printable " " ∧ Printable "-" ∧ Printable "/" := by
    decide
  unfold contentRange
  split
  · simp only [printable_append, hname, hsigns, printable_toString, and_self]
  · simp only [printable_append, hname, hsigns, printable_toString, and_self]

/-- There is a header for every name, every page with room for an item and every total, without a
control character in it, and it says what arithmetic on unbounded numbers says. A page that starts at
or past the total has no range. The range of any other starts at the offset and ends one before the
page or the list does, within the list, and the two subtractions that give its end stay above
zero. -/
theorem contentRange_by_exact_arithmetic (accepts : String → Bool)
    (haccepts : ∀ text, Printable text → accepts text) (offset limit total : UInt64)
    (hlimit : 1 ≤ limit) (name : String) :
    ∃ text, contentRangeHeader? accepts offset limit total name = some text ∧ Printable text
      ∧ (total ≤ offset → text = printablePart name ++ " */" ++ toString total.toNat)
      ∧ (offset < total → ∃ last : Nat,
        (last : Int) = min ((offset.toNat : Int) + limit.toNat) total.toNat - 1
          ∧ offset.toNat ≤ last ∧ last < total.toNat
          ∧ 1 ≤ Word.add offset limit ∧ 1 ≤ total
          ∧ text = printablePart name ++ " " ++ toString offset.toNat ++ "-" ++ toString last
              ++ "/" ++ toString total.toNat) := by
  have hprintable := printable_contentRange offset limit total name
  have hheader : contentRangeHeader? accepts offset limit total name
      = some (contentRange offset limit total name) := by
    rw [contentRangeHeader?, Option.filter_some, if_pos (haccepts _ hprintable)]
  refine ⟨_, hheader, hprintable, fun hle => ?_, fun hlt => ?_⟩
  · rw [contentRange_of_le hle, headerSafe_eq]
  · rw [UInt64.lt_iff_toNat_lt] at hlt
    rw [UInt64.le_iff_toNat_le] at hlimit
    have hone : 1 ≤ limit.toNat := hlimit
    have hadd : (Word.add offset limit).toNat = min (offset.toNat + limit.toNat) maxUInt64 :=
      Word.toNat_add offset limit
    have hmax : 1 ≤ maxUInt64 := by decide
    -- the offset is below the total, so the end is not before the start and nothing falls below
    -- zero
    refine ⟨min (offset.toNat + limit.toNat) total.toNat - 1, by omega, by omega, by omega,
      UInt64.le_iff_toNat_le.2 ?_, UInt64.le_iff_toNat_le.2 ?_, ?_⟩
    · show 1 ≤ (Word.add offset limit).toNat
      omega
    · show 1 ≤ total.toNat
      omega
    · rw [contentRange_of_lt hlt, headerSafe_eq]

/-- Visible ASCII, the blank and the tab. -/
def isHeaderText (text : String) : Bool :=
  text.toList.all fun c => c = '\t' || (0x20 ≤ c.toNat && c.toNat < 0x7F)

/-- The page is the longest there is, so that its end is past the largest word, and the name would
start a line of its own. -/
theorem contentRange_by_exact_arithmetic_injected :
    (∀ text, Printable text → isHeaderText text) ∧ (1 : UInt64) ≤ 18446744073709551615
      ∧ ∃ text, contentRangeHeader? isHeaderText 5 18446744073709551615 18446744073709551615
          "spells\r\nInjected: evil" = some text ∧ Printable text
        ∧ text = "spellsInjected: evil 5-18446744073709551614/18446744073709551615" := by
  have haccepts : ∀ text, Printable text → isHeaderText text := by
    intro text htext
    rw [isHeaderText, List.all_eq_true]
    intro c hc
    obtain ⟨hlow, hhigh⟩ := htext c hc
    simp only [Bool.or_eq_true, Bool.and_eq_true, decide_eq_true_eq]
    omega
  have hlimit : (1 : UInt64) ≤ 18446744073709551615 := by decide
  obtain ⟨text, hheader, hprintable, -, hrange⟩ := contentRange_by_exact_arithmetic isHeaderText
    haccepts 5 18446744073709551615 18446744073709551615 hlimit "spells\r\nInjected: evil"
  obtain ⟨last, hlast, -, -, -, -, htext⟩ := hrange (by decide)
  -- the end of the page stops at the total, and not at the largest word
  have hend : last = 18446744073709551614 := by
    have hword : (18446744073709551615 : UInt64).toNat = 18446744073709551615 := by decide
    have hoffset : (5 : UInt64).toNat = 5 := by decide
    omega
  refine ⟨haccepts, hlimit, text, hheader, hprintable, ?_⟩
  rw [htext, hend]
  decide

end Compendium
