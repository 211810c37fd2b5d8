import Compendium.Text.Blank
import Compendium.Text.Decimal
import Compendium.Word

/-!
# Compendium — paging

Which page of a list is asked for, and the header that says which items it holds. Page and limit are
read leniently: a decimal is rounded down, and whatever does not come to at least 1 is as good as
nothing.
-/

namespace Compendium

/-- A page number, counted from 1, and the number of items on a page. -/
structure Pagination where
  page : UInt64
  limit : UInt64
deriving DecidableEq, Repr, Inhabited

/-- The floor of a positive numeral. An integer that fits a word is read exactly; any other numeral
as a binary64 number, which stops at the largest word. -/
def positive? (raw : String) : Option UInt64 :=
  let raw := Text.trim raw
  match Text.uint64? raw with
  | some n => if n = 0 then none else some n
  | none =>
    match Text.Numeral.parse? raw.toList with
    | none => none
    | some numeral =>
      if numeral.negative then none
      else numeral.floorSize?.bind fun floor =>
        if floor = 0 then none else some (clampUInt64 floor)

namespace Pagination

/-- What the texts of the two paging parameters ask for: the first page unless they name another,
and `defaultLimit` items unless they give a number. -/
def ofTexts (page limit : Option String) (defaultLimit : UInt64) : Pagination where
  page := (page.bind positive?).getD 1
  limit := (limit.bind positive?).getD defaultLimit

/-- How many items lie on the pages before. -/
def offset (p : Pagination) : UInt64 := Word.mul (Word.sub p.page 1) p.limit

/-- The offset is the number of items on the pages before, or the largest word if that is more. -/
theorem toNat_offset (p : Pagination) :
    p.offset.toNat = min ((p.page.toNat - 1) * p.limit.toNat) maxUInt64 := by
  rw [offset, Word.toNat_mul, Word.toNat_sub]
  rfl

end Pagination

/-! ## The Content-Range header

`name first-last/total` for a page that holds items and `name */total` for one past the last. -/

/-- A header value has no room for control characters or for anything outside ASCII. -/
def headerSafe (name : String) : String :=
  String.ofList (name.toList.filter fun c => 0x20 ≤ c.toNat && c.toNat ≤ 0x7E)

def contentRange (offset limit total : UInt64) (name : String) : String :=
  if total ≤ offset then
    headerSafe name ++ " */" ++ toString total.toNat
  else
    let last := min (Word.sub (Word.add offset limit) 1) (Word.sub total 1)
    headerSafe name ++ " " ++ toString offset.toNat ++ "-" ++ toString last.toNat
      ++ "/" ++ toString total.toNat

/-- The header as it goes out. A text that `accepts` does not take for a header's value is left
out. -/
def contentRangeHeader? (accepts : String → Bool) (offset limit total : UInt64) (name : String) :
    Option String :=
  (some (contentRange offset limit total name)).filter accepts

end Compendium
