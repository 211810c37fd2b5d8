import Mathlib.Logic.ExistsUnique
import Compendium.Statement.PageQuery

/-!
# Compendium — windows of pages

The last two values of a page query are its limit and its offset. Neither needs to be the number
that was asked for: the offset is a product that stops at the largest unsigned word, and both are
cut off at the largest signed one. No index below that largest signed word notices.

* `PageQuery.Covers` says that an index is in the window that the query binds.
* `Pagination.covered_iff_div_eq` is the arithmetic: an index is on the page that its quotient by
  the limit says.
* `existsUnique_page_covers` is the law for page queries.
-/

namespace Compendium

/-- The same request for another page. -/
def ListRequest.atPage (request : ListRequest) (page limit : UInt64) : ListRequest :=
  { request with pagination := ⟨page, limit⟩ }

namespace PageQuery

/-- The last two values are a limit and an offset with the index between. -/
def Covers (q : PageQuery) (i : Nat) : Prop :=
  ∃ (front : List Scalar) (limit offset : Int64), q.values = front ++ [.int limit, .int offset]
    ∧ offset.toInt ≤ (i : Int) ∧ (i : Int) < offset.toInt + limit.toInt

/-- The groups in the window, out of all groups in order. -/
def window {G : Type} (q : PageQuery) (groups : List G) : List G :=
  (groups.drop q.select.offset.toInt.toNat).take q.select.limit.toInt.toNat

variable {q : PageQuery}

/-- The two values are the clamped words of the statement. -/
theorem covers_iff {i : Nat} :
    q.Covers i ↔
      q.select.offset.toInt ≤ (i : Int)
        ∧ (i : Int) < q.select.offset.toInt + q.select.limit.toInt := by
  have hvalues := q.select.values_fragment q.backend
  constructor
  · rintro ⟨front, limit, offset, hfront, hcovers⟩
    -- a list ends in two values in one way only
    obtain ⟨-, hlast⟩ := List.append_inj' (hvalues.symm.trans hfront) rfl
    cases hlast
    exact hcovers
  · exact fun hcovers => ⟨_, _, _, hvalues, hcovers⟩

/-- A group is in the window if its index is. -/
theorem mem_window_iff {G : Type} {groups : List G} {g : G} (hoffset : 0 ≤ q.select.offset.toInt) :
    g ∈ q.window groups ↔ ∃ i, q.Covers i ∧ groups[i]? = some g := by
  simp only [window, List.mem_iff_getElem?, List.getElem?_take, List.getElem?_drop, covers_iff]
  constructor
  · rintro ⟨i, hi⟩
    split at hi
    · exact ⟨q.select.offset.toInt.toNat + i, by omega, hi⟩
    · cases hi
  · rintro ⟨i, hcovers, hi⟩
    refine ⟨i - q.select.offset.toInt.toNat, ?_⟩
    rw [if_pos (by omega), ← hi]
    congr 1
    omega

end PageQuery

/-! ## The arithmetic -/

namespace Pagination

/-- An index is in the window of a page if as many whole pages go before it as before the page. -/
theorem covered_iff_div_eq {p : Pagination} (hpage : 1 ≤ p.page.toNat) (hlimit : 1 ≤ p.limit.toNat)
    {i : Nat} (hi : i < maxInt64) :
    (Word.toParam p.offset).toInt ≤ (i : Int)
        ∧ (i : Int) < (Word.toParam p.offset).toInt + (Word.toParam p.limit).toInt ↔
      i / p.limit.toNat + 1 = p.page.toNat := by
  have hwords : maxInt64 ≤ maxUInt64 := by decide
  simp only [Word.toParam, toInt_clampInt64, toNat_offset, ← Int.natCast_add, Int.ofNat_le,
    Int.ofNat_lt]
  -- from here on the exact product is all that matters
  generalize hbefore : (p.page.toNat - 1) * p.limit.toNat = before
  constructor
  · rintro ⟨hle, hlt⟩
    -- an offset that was cut off lies past the index, so this one was not
    have hdiv : i / p.limit.toNat = p.page.toNat - 1 := by
      refine Nat.div_eq_of_lt_le ?_ ?_
      · rw [hbefore]
        omega
      · rw [Nat.succ_mul, hbefore]
        omega
    omega
  · intro hdiv
    have hfloor : i / p.limit.toNat * p.limit.toNat = before := by
      rw [← hbefore]
      congr 1
      omega
    have hle : i / p.limit.toNat * p.limit.toNat ≤ i := Nat.div_mul_le_self i p.limit.toNat
    have hlt : i < i / p.limit.toNat * p.limit.toNat + p.limit.toNat := Nat.lt_div_mul_add hlimit
    omega

end Pagination

/-! ## Page queries -/

section

variable {listing : Listing} {request : ListRequest} {backend : Backend}
  (hvalid : request.isValid) (hbackend : backend ≠ .postgres)

include hvalid hbackend

/-- A valid request is valid for every page. -/
theorem pageQuery_atPage (page limit : UInt64) :
    listing.pageQuery (request.atPage page limit) backend
      = .ok ⟨listing.select (request.atPage page limit), backend, request.alternate⟩ := by
  have hvalid' : (request.atPage page limit).isValid := hvalid
  exact Listing.pageQuery_of_isValid hvalid' hbackend

/-- The page of an index is one more than its quotient by the limit. -/
theorem covers_atPage_iff {page limit : UInt64} (hpage : 1 ≤ page) (hlimit : 1 ≤ limit) {i : Nat}
    (hi : i < maxInt64) :
    (∃ query, listing.pageQuery (request.atPage page limit) backend = .ok query
        ∧ query.Covers i) ↔
      i / limit.toNat + 1 = page.toNat := by
  rw [pageQuery_atPage hvalid hbackend, ← Pagination.covered_iff_div_eq (p := ⟨page, limit⟩)
    (UInt64.le_iff_toNat_le.1 hpage) (UInt64.le_iff_toNat_le.1 hlimit) hi]
  simp only [Except.ok.injEq, exists_eq_left', PageQuery.covers_iff]
  exact Iff.rfl

/-- Every index is in the window of one page, and of one page only. -/
theorem existsUnique_page_covers {limit : UInt64} (hlimit : 1 ≤ limit) {i : Nat}
    (hi : i < maxInt64) :
    ∃! page : UInt64, 1 ≤ page
      ∧ ∃ query, listing.pageQuery (request.atPage page limit) backend = .ok query
        ∧ query.Covers i := by
  -- the page of an index is a word, since an index is no larger than a signed one
  have hword : i / limit.toNat + 1 < 2 ^ 64 := by
    have hle : i / limit.toNat ≤ i := Nat.div_le_self i limit.toNat
    have hmax : maxInt64 < 2 ^ 64 := by decide
    omega
  have hpage : (UInt64.ofNat (i / limit.toNat + 1)).toNat = i / limit.toNat + 1 :=
    UInt64.toNat_ofNat_of_lt hword
  have hone : 1 ≤ UInt64.ofNat (i / limit.toNat + 1) := by
    rw [UInt64.le_iff_toNat_le, hpage]
    exact Nat.le_add_left 1 _
  refine ⟨.ofNat (i / limit.toNat + 1), ⟨hone, ?_⟩, ?_⟩
  · exact (covers_atPage_iff hvalid hbackend hone hlimit hi).2 hpage.symm
  · rintro page ⟨hpage', hcovers⟩
    have hdiv := (covers_atPage_iff hvalid hbackend hpage' hlimit hi).1 hcovers
    rw [← UInt64.toNat_inj, hpage, hdiv]

end

end Compendium
