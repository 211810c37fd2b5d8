/-!
# Compendium — saturating words

Pages, limits and totals are unsigned 64-bit words whose arithmetic stops at the largest word
instead of wrapping; bound parameters are signed 64-bit words. Both are reached from the natural
numbers by clamping, and the arithmetic is stated there: each operation is the exact one followed
by the clamp.
-/

namespace Compendium

def maxUInt64 : Nat := 0xFFFFFFFFFFFFFFFF
def maxInt64 : Nat := 0x7FFFFFFFFFFFFFFF

/-- The largest unsigned word that is at most `n`. -/
def clampUInt64 (n : Nat) : UInt64 :=
  UInt64.ofNat (min n maxUInt64)

/-- The largest signed word that is at most `n`. -/
def clampInt64 (n : Nat) : Int64 :=
  Int64.ofNat (min n maxInt64)

/-- Clamping keeps what fits and stops at the largest word. -/
@[simp] theorem toNat_clampUInt64 (n : Nat) : (clampUInt64 n).toNat = min n maxUInt64 := by
  have : min n maxUInt64 < 2 ^ 64 := by unfold maxUInt64; omega
  rw [clampUInt64, UInt64.toNat_ofNat', Nat.mod_eq_of_lt this]

@[simp] theorem toInt_clampInt64 (n : Nat) : (clampInt64 n).toInt = ((min n maxInt64 : Nat) : Int) := by
  have : min n maxInt64 < 2 ^ 63 := by unfold maxInt64; omega
  exact Int64.toInt_ofNat_of_lt this

theorem toNat_le_maxUInt64 (n : UInt64) : n.toNat ≤ maxUInt64 := by
  have := n.toNat_lt
  unfold maxUInt64; omega

namespace Word

def add (a b : UInt64) : UInt64 := clampUInt64 (a.toNat + b.toNat)
def mul (a b : UInt64) : UInt64 := clampUInt64 (a.toNat * b.toNat)

/-- Subtraction that stops at zero. -/
def sub (a b : UInt64) : UInt64 := clampUInt64 (a.toNat - b.toNat)

/-- The word as a bound parameter. -/
def toParam (n : UInt64) : Int64 := clampInt64 n.toNat

/-- A difference never passes the upper end, so it is the one of natural numbers. -/
theorem toNat_sub (a b : UInt64) : (sub a b).toNat = a.toNat - b.toNat := by
  have := toNat_le_maxUInt64 a
  simp only [sub, toNat_clampUInt64]; omega

/-- A sum is exact until it stops at the largest word. -/
theorem toNat_add (a b : UInt64) : (add a b).toNat = min (a.toNat + b.toNat) maxUInt64 :=
  toNat_clampUInt64 _

/-- A product is exact until it stops at the largest word. -/
theorem toNat_mul (a b : UInt64) : (mul a b).toNat = min (a.toNat * b.toNat) maxUInt64 :=
  toNat_clampUInt64 _

end Word

end Compendium
