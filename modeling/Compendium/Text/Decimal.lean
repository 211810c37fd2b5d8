import Compendium.Text.Integer

/-!
# Compendium — decimal numerals

A decimal numeral is an optional sign, digits with at most one point among, before or after them,
and an optional exponent. Where a whole number is wanted it is read as the binary64 number nearest
to it, ties to the even significand, and then rounded down. So `2.7` reads as 2, but a numeral close
enough below 1 reads as 1. The rounding is done exactly, on natural numbers.
-/

namespace Compendium.Text

/-- `± digits · 10^exponent`. -/
structure Numeral where
  negative : Bool
  digits : Nat
  exponent : Int
deriving DecidableEq, Repr

namespace Numeral

def takeSign : List Char → Bool × List Char
  | '+' :: cs => (false, cs)
  | '-' :: cs => (true, cs)
  | cs => (false, cs)

/-- The digits after the point, if a point comes next, and what follows them. -/
def takeFraction : List Char → List Char × List Char
  | '.' :: cs => cs.span Char.isDigit
  | cs => ([], cs)

/-- The digits of an exponent count until they have come to this; later ones are only checked. -/
def exponentCap : Nat := 0x10000

def exponentValue (cs : List Char) : Nat :=
  cs.foldl (fun n c => if n < exponentCap then 10 * n + digitValue c else n) 0

/-- The exponent, zero where the numeral ends without one. -/
def exponent? : List Char → Option Int
  | [] => some 0
  | mark :: cs =>
    let (negative, digits) := takeSign cs
    if mark ∉ ['e', 'E'] || digits.isEmpty || !digits.all Char.isDigit then none
    else if negative then some (-(exponentValue digits : Int))
    else some (exponentValue digits)

/-- A numeral has a digit before the exponent; the point alone is none. -/
def parse? (cs : List Char) : Option Numeral :=
  let (negative, cs) := takeSign cs
  let (whole, cs) := cs.span Char.isDigit
  let (fraction, cs) := takeFraction cs
  if whole.isEmpty && fraction.isEmpty then none
  else (exponent? cs).map fun e =>
    ⟨negative, digitsValue (whole ++ fraction), e - fraction.length⟩

end Numeral

/-! ## Rounding to binary64 -/

/-- The natural number nearest to `num / den`, of two equally near the even one. -/
def divRoundEven (num den : Nat) : Nat :=
  let q := num / den
  let r := num % den
  if 2 * r < den || (2 * r == den && q % 2 == 0) then q else q + 1

/-- The floor of the binary64 number nearest to `num / den`. With k such that the quotient lies in
`[2^(k-1), 2^k)`, the candidates are the multiples of `2^(k-53)`; below a half, where they lie
closer together, the floor is 0 on the coarser grid too. -/
def floorNearest (num den : Nat) : Nat :=
  let k := (2 * num / den).log2
  if k ≤ 53 then
    divRoundEven (num <<< (53 - k)) den >>> (53 - k)
  else
    divRoundEven num (den <<< (k - 53)) <<< (k - 53)

/-- Finite binary64 numbers end below this; a numeral that would round to it is infinite. -/
def binary64Limit : Nat := 1 <<< 1024

def decimalLength (n : Nat) : Nat := (Nat.toDigits 10 n).length

/-- The floor of the numeral's size as a binary64 number, `none` if that is infinite. A size of
`10^310` or more is infinite and one below a tenth has floor 0, so no larger power of ten is ever
computed. -/
def Numeral.floorSize? (n : Numeral) : Option Nat :=
  let magnitude := decimalLength n.digits + n.exponent
  if n.digits = 0 ∨ magnitude < 0 then some 0
  else if magnitude > 310 then none
  else
    let floor :=
      floorNearest (n.digits * Nat.pow 10 n.exponent.toNat) (Nat.pow 10 (-n.exponent).toNat)
    if floor < binary64Limit then some floor else none

end Compendium.Text
