/-!
# Compendium — integer literals

An integer is written as ASCII digits, any number of leading zeros allowed, with an optional sign
in front. A signed word takes `+` or `-`, an unsigned word only `+`; a literal outside the word's
range is no literal. Blanks are not skipped here.
-/

namespace Compendium.Text

def digitValue (c : Char) : Nat := c.toNat - '0'.toNat

/-- The value of a row of digits read in base ten. -/
def digitsValue (cs : List Char) : Nat :=
  cs.foldl (fun n c => 10 * n + digitValue c) 0

/-- The value of a text that is one or more digits and nothing else. -/
def natural? (cs : List Char) : Option Nat :=
  if !cs.isEmpty && cs.all Char.isDigit then some (digitsValue cs) else none

def integer? : List Char → Option Int
  | '+' :: cs => (natural? cs).map Int.ofNat
  | '-' :: cs => (natural? cs).map fun n => -(n : Int)
  | cs => (natural? cs).map Int.ofNat

def int64? (s : String) : Option Int64 :=
  (integer? s.toList).bind fun n =>
    if Int64.minValue.toInt ≤ n ∧ n ≤ Int64.maxValue.toInt then some (Int64.ofInt n) else none

def unsigned? : List Char → Option Nat
  | '+' :: cs => natural? cs
  | cs => natural? cs

def uint64? (s : String) : Option UInt64 :=
  (unsigned? s.toList).bind fun n => if n < UInt64.size then some (UInt64.ofNat n) else none

/-- The word that a literal names is the integer it spells. -/
theorem toInt_of_int64?_eq_some {s : String} {v : Int64} (h : int64? s = some v) :
    integer? s.toList = some v.toInt := by
  unfold int64? at h
  obtain ⟨n, hn, h⟩ := Option.bind_eq_some_iff.1 h
  split at h
  · rename_i hr
    cases h
    rw [Int64.toInt_minValue, Int64.toInt_maxValue] at hr
    rw [hn, Int64.toInt_ofInt_of_le hr.1 (by omega)]
  · cases h

end Compendium.Text
