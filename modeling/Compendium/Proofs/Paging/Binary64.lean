import Mathlib.Algebra.Order.Floor.Semifield
import Mathlib.Data.Int.Log
import Mathlib.Data.Rat.Floor
import Mathlib.Tactic.FieldSimp
import Mathlib.Tactic.Linarith
import Compendium.Text.Decimal

/-!
# Compendium — rounding to binary64

Numerals that are no words are rounded to binary64 numbers before their floor is taken. The numbers
themselves are never built: a floor of the nearest one is computed on natural numbers. Here the
numbers are spelled out as rationals, with the rule by which one is taken for another, and the
computation is compared with them.

* `Binary64.NearestTo` is the rule: no number is nearer, and ties go to the even significand.
* `Binary64.exists_roundsEven` brings it down to natural numbers, on the scale of what is rounded.
* `Binary64.exists_nearestTo` says that something can always be taken.
* `floorNearest_eq` says that the computation follows the rule.
-/

namespace Compendium.Text

/-! ## The nearest natural number -/

/-- The natural number is nearest to `q`, and of two equally near it is the even one. -/
structure RoundsEven (q : ℚ) (n : Nat) : Prop where
  near : |q - n| ≤ 1 / 2
  even : |q - n| = 1 / 2 → Even n

namespace RoundsEven

variable {q : ℚ} {n : Nat}

/-- Another natural number is at least half a unit away. -/
theorem half_le (h : RoundsEven q n) {m : Nat} (hne : m ≠ n) : 1 / 2 ≤ |q - m| := by
  have hnear := abs_le.1 h.near
  -- the other number lies a unit or more below `n` or above it
  rcases Nat.lt_or_gt_of_ne hne with hlt | hgt
  · have hle : (m : ℚ) + 1 ≤ n := by exact_mod_cast hlt
    exact le_abs.2 (.inl (by linarith))
  · have hle : (n : ℚ) + 1 ≤ m := by exact_mod_cast hgt
    exact le_abs.2 (.inr (by linarith))

/-- No natural number is nearer. -/
theorem near_le (h : RoundsEven q n) (m : Nat) : |q - n| ≤ |q - m| := by
  rcases eq_or_ne m n with rfl | hne
  · exact le_rfl
  · exact h.near.trans (h.half_le hne)

/-- What `q` is rounded to is determined: of two neighbours that are equally near only one is even.
-/
theorem unique (h : RoundsEven q n) {m : Nat} (hm : RoundsEven q m) : n = m := by
  by_contra hne
  have hn : |q - n| = 1 / 2 := le_antisymm h.near (hm.half_le hne)
  have hm' : |q - m| = 1 / 2 := le_antisymm hm.near (h.half_le (Ne.symm hne))
  -- two numbers half a unit away are neighbours, and not both even
  have hsucc : n = m + 1 ∨ m = n + 1 := by
    rcases abs_eq (by norm_num) |>.1 hn with h1 | h1 <;>
      rcases abs_eq (by norm_num) |>.1 hm' with h2 | h2
    · exact absurd (by exact_mod_cast (by linarith : (n : ℚ) = m)) hne
    · exact .inr (by exact_mod_cast (by linarith : (m : ℚ) = n + 1))
    · exact .inl (by exact_mod_cast (by linarith : (n : ℚ) = m + 1))
    · exact absurd (by exact_mod_cast (by linarith : (n : ℚ) = m)) hne
  obtain ⟨a, ha⟩ := h.even hn
  obtain ⟨b, hb⟩ := hm.even hm'
  omega

/-- Rounding goes down no further than to the floor. -/
theorem floor_le (h : RoundsEven q n) (hq : 0 ≤ q) : ⌊q⌋₊ ≤ n := by
  -- a whole unit below the floor would be farther than half a unit from `q`
  by_contra hlt
  have hle : (n : ℚ) + 1 ≤ ⌊q⌋₊ := by exact_mod_cast not_le.1 hlt
  have hnear := (abs_le.1 h.near).2
  linarith [Nat.floor_le hq]

/-- Rounding goes up no further than to the number after the floor. -/
theorem le_floor_add_one (h : RoundsEven q n) : n ≤ ⌊q⌋₊ + 1 := by
  by_contra hlt
  have hle : ((⌊q⌋₊ + 1 : Nat) : ℚ) + 1 ≤ n := by exact_mod_cast not_le.1 hlt
  push_cast at hle
  have hnear := (abs_le.1 h.near).1
  linarith [Nat.lt_floor_add_one q]

/-- An even number is reached from half a unit before it on, and not earlier. -/
theorem lt_iff_of_even (h : RoundsEven q n) {m : Nat} (hm : Even m) : n < m ↔ q < m - 1 / 2 := by
  obtain ⟨hlow, hhigh⟩ := abs_le.1 h.near
  constructor
  · intro hlt
    by_contra hge
    have hle : (n : ℚ) + 1 ≤ m := by exact_mod_cast hlt
    -- a tie with the number before it, which is odd
    have htie : |q - n| = 1 / 2 := le_antisymm h.near (le_abs.2 (.inl (by linarith)))
    have heq : m = n + 1 := by exact_mod_cast (by linarith : (m : ℚ) = n + 1)
    rw [heq, Nat.even_add_one] at hm
    exact hm (h.even htie)
  · intro hlt
    exact_mod_cast (by linarith : (n : ℚ) < m)

end RoundsEven

/-- It is enough to compare with the two natural numbers next to `q`. -/
theorem roundsEven_of_neighbours {q : ℚ} (hq : 0 ≤ q) {n : Nat}
    (hnear : ∀ m, ⌊q⌋₊ ≤ m → m ≤ ⌊q⌋₊ + 1 → |q - n| ≤ |q - m|)
    (heven : ∀ m, ⌊q⌋₊ ≤ m → m ≤ ⌊q⌋₊ + 1 → m ≠ n → |q - m| = |q - n| → Even n) :
    RoundsEven q n := by
  have hbelow : |q - ⌊q⌋₊| = q - ⌊q⌋₊ := abs_of_nonneg (sub_nonneg.2 (Nat.floor_le hq))
  have habove : |q - (⌊q⌋₊ + 1 : Nat)| = ⌊q⌋₊ + 1 - q := by
    have hlt := Nat.lt_floor_add_one q
    rw [abs_of_nonpos (by push_cast; linarith)]
    push_cast
    ring
  have hlow := hnear _ le_rfl (Nat.le_add_right _ 1)
  have hhigh := hnear _ (Nat.le_add_right _ 1) le_rfl
  rw [hbelow] at hlow
  rw [habove] at hhigh
  refine ⟨by linarith, fun htie => ?_⟩
  -- in a tie both are equally near, and one of them is another number
  by_cases hn : ⌊q⌋₊ = n
  · refine heven _ (Nat.le_add_right _ 1) le_rfl (by omega) ?_
    rw [habove, htie]
    linarith
  · refine heven _ le_rfl (Nat.le_add_right _ 1) hn ?_
    rw [hbelow, htie]
    linarith

theorem cast_div_add_mod (num : Nat) {den : Nat} (hden : 0 < den) :
    (num : ℚ) / den = (num / den : Nat) + ((num % den : Nat) : ℚ) / den := by
  have hne : (den : ℚ) ≠ 0 := by exact_mod_cast hden.ne'
  have hsplit : (num : ℚ) = den * (num / den : Nat) + (num % den : Nat) := by
    exact_mod_cast (Nat.div_add_mod num den).symm
  rw [hsplit]
  field_simp

/-- The remainder decides: less than half the divisor, more, or just half of it. -/
theorem roundsEven_divRoundEven (num : Nat) {den : Nat} (hden : 0 < den) :
    RoundsEven (num / den) (divRoundEven num den) := by
  have hdenq : (0 : ℚ) < den := by exact_mod_cast hden
  have hnonneg : 0 ≤ ((num % den : Nat) : ℚ) / den := by positivity
  have hlt : ((num % den : Nat) : ℚ) / den < 1 := by
    rw [div_lt_one hdenq]
    exact_mod_cast Nat.mod_lt num hden
  rw [cast_div_add_mod num hden]
  unfold divRoundEven
  simp only [Bool.or_eq_true, Bool.and_eq_true, decide_eq_true_eq, beq_iff_eq]
  split
  · rename_i hdown
    -- rounded down, the remainder is what is left over
    have hhalf : ((num % den : Nat) : ℚ) / den ≤ 1 / 2 := by
      rw [div_le_div_iff₀ hdenq two_pos]
      have hle : num % den * 2 ≤ 1 * den := by omega
      exact_mod_cast hle
    refine ⟨?_, fun htie => ?_⟩
    · rw [add_sub_cancel_left, abs_of_nonneg hnonneg]
      exact hhalf
    · rw [add_sub_cancel_left, abs_of_nonneg hnonneg, div_eq_div_iff hdenq.ne' two_ne_zero] at htie
      have heq : num % den * 2 = 1 * den := by exact_mod_cast htie
      rw [Nat.even_iff]
      omega
  · -- rounded up, what is missing to the whole divisor is at most a half
    rename_i hup
    have hhalf : 1 / 2 ≤ ((num % den : Nat) : ℚ) / den := by
      rw [div_le_div_iff₀ two_pos hdenq]
      have hle : 1 * den ≤ num % den * 2 := by omega
      exact_mod_cast hle
    have habs : |((num / den : Nat) : ℚ) + ((num % den : Nat) : ℚ) / den - (num / den + 1 : Nat)|
        = 1 - ((num % den : Nat) : ℚ) / den := by
      rw [abs_of_nonpos (by push_cast; linarith)]
      push_cast
      ring
    refine ⟨?_, fun htie => ?_⟩
    · rw [habs]
      linarith
    · rw [habs] at htie
      have htie' : ((num % den : Nat) : ℚ) / den = 1 / 2 := by linarith
      rw [div_eq_div_iff hdenq.ne' two_ne_zero] at htie'
      have heq : num % den * 2 = 1 * den := by exact_mod_cast htie'
      rw [Nat.even_iff]
      omega

/-- A rational is the quotient of its parts, and quotients are rounded by `divRoundEven`. -/
theorem exists_roundsEven_of_nonneg {q : ℚ} (hq : 0 ≤ q) : ∃ n, RoundsEven q n := by
  have hnum : ((q.num.toNat : Nat) : ℚ) = q.num := by
    exact_mod_cast Int.toNat_of_nonneg (Rat.num_nonneg.2 hq)
  have hround := roundsEven_divRoundEven q.num.toNat q.den_pos
  rw [hnum, Rat.num_div_den] at hround
  exact ⟨_, hround⟩

/-! ## The numbers -/

/-- A binary64 number that is not negative, and would be one if there were no largest exponent: a
significand of 53 bits, the first of them set unless the exponent is the least. -/
structure Binary64 where
  significand : Nat
  exponent : Int
  significand_lt : significand < 2 ^ 53
  least_le : -1074 ≤ exponent
  normal : 2 ^ 52 ≤ significand ∨ exponent = -1074

namespace Binary64

def value (x : Binary64) : ℚ := x.significand * 2 ^ x.exponent

theorem value_nonneg (x : Binary64) : 0 ≤ x.value :=
  mul_nonneg (Nat.cast_nonneg _) (zpow_pos two_pos _).le

/-- No number is nearer to `v`, and of two equally near it is the one with the even significand. -/
structure NearestTo (x : Binary64) (v : ℚ) : Prop where
  nearest : ∀ y : Binary64, |v - x.value| ≤ |v - y.value|
  even_of_tie : ∀ y : Binary64, y.value ≠ x.value → |v - y.value| = |v - x.value| →
    Even x.significand

/-- The unit `2^e` gives `v` a significand of 53 bits, or there is no smaller unit. -/
structure FitsAt (v : ℚ) (e : Int) : Prop where
  least_le : -1074 ≤ e
  lt : v < 2 ^ (e + 53)
  le : 2 ^ (e + 52) ≤ v ∨ e = -1074

variable {x y : Binary64} {v : ℚ} {e : Int}

/-! ### Multiples of a unit -/

theorem two_zpow_add (e : Int) (k : Nat) : (2 : ℚ) ^ (e + k) = (2 ^ k : Nat) * 2 ^ e := by
  rw [zpow_add₀ two_ne_zero, zpow_natCast, mul_comm]
  push_cast
  rfl

/-- Numbers that are not too small for the unit are multiples of it. -/
theorem value_eq_multiple (h : 2 ^ (e + 52) ≤ x.value ∨ e = -1074) :
    ∃ k : Nat, x.value = (x.significand * 2 ^ k : Nat) * 2 ^ e := by
  have hle : e ≤ x.exponent := by
    -- a smaller unit than `e` leaves 53 bits no room to reach `2^(e + 52)`
    rcases h with h | rfl
    · by_contra hlt
      have hsmall : x.value < 2 ^ (e + 52) := by
        calc x.value < (2 ^ 53 : Nat) * 2 ^ x.exponent :=
              mul_lt_mul_of_pos_right (by exact_mod_cast x.significand_lt) (zpow_pos two_pos _)
          _ = 2 ^ (x.exponent + (53 : Nat)) := (two_zpow_add _ _).symm
          _ ≤ 2 ^ (e + 52) := zpow_le_zpow_right₀ one_le_two (by omega)
      exact absurd h (not_le.2 hsmall)
    · exact x.least_le
  refine ⟨(x.exponent - e).toNat, ?_⟩
  have hexponent : x.exponent = e + (x.exponent - e).toNat := by omega
  calc x.value = x.significand * 2 ^ (e + (x.exponent - e).toNat) := by rw [value, ← hexponent]
    _ = (x.significand * 2 ^ (x.exponent - e).toNat : Nat) * 2 ^ e := by
      rw [two_zpow_add, Nat.cast_mul, mul_assoc]

/-- Multiples of a unit with 53 bits are numbers, and so is the next one. -/
theorem exists_value_eq {n : Nat} (hn : n ≤ 2 ^ 53) (he : -1074 ≤ e)
    (hnormal : 2 ^ 52 ≤ n ∨ e = -1074) :
    ∃ x : Binary64, x.value = n * 2 ^ e ∧ (Even n → Even x.significand) := by
  rcases Nat.lt_or_eq_of_le hn with hlt | rfl
  · exact ⟨⟨n, e, hlt, he, hnormal⟩, rfl, id⟩
  · -- the next one has a smaller significand and a larger unit
    refine ⟨⟨2 ^ 52, e + 1, by norm_num, by omega, .inl le_rfl⟩, ?_, fun _ => ?_⟩
    · have hstep : (2 : ℚ) ^ (e + 1) = (2 ^ 1 : Nat) * 2 ^ e := two_zpow_add e 1
      rw [value, hstep]
      push_cast
      ring
    · exact Nat.even_pow.2 ⟨even_two, by norm_num⟩

/-! ### Order -/

/-- Rounding up does not pass a number that lies above. -/
theorem NearestTo.value_le (h : x.NearestTo v) (hy : v ≤ y.value) : x.value ≤ y.value := by
  by_contra hlt
  have hnear := h.nearest y
  rw [abs_of_nonpos (by linarith), abs_of_nonpos (by linarith)] at hnear
  linarith

/-- Rounding down does not pass a number that lies below. -/
theorem NearestTo.le_value (h : x.NearestTo v) (hy : y.value ≤ v) : y.value ≤ x.value := by
  by_contra hlt
  have hnear := h.nearest y
  rw [abs_of_nonneg (by linarith), abs_of_nonneg (by linarith)] at hnear
  linarith

/-! ### Rounding on a scale -/

/-- A distance between multiples of a unit is one between natural numbers, in that unit. -/
theorem abs_sub_multiple (v : ℚ) (e : Int) (n : Nat) :
    |v - n * 2 ^ e| = |v / 2 ^ e - n| * 2 ^ e := by
  have hunit : (0 : ℚ) < 2 ^ e := zpow_pos two_pos e
  rw [← abs_of_pos hunit, ← abs_mul, abs_of_pos hunit, sub_mul, div_mul_cancel₀ _ hunit.ne']

theorem abs_sub_multiple_le_iff {n m : Nat} :
    |v - n * 2 ^ e| ≤ |v - m * 2 ^ e| ↔ |v / 2 ^ e - n| ≤ |v / 2 ^ e - m| := by
  rw [abs_sub_multiple, abs_sub_multiple]
  exact mul_le_mul_iff_left₀ (zpow_pos two_pos e)

/-- In its unit `v` is no more than 53 bits long. -/
theorem FitsAt.div_lt (h : FitsAt v e) : v / 2 ^ e < (2 ^ 53 : Nat) := by
  rw [div_lt_iff₀ (zpow_pos two_pos e), ← two_zpow_add]
  exact h.lt

/-- In its unit `v` fills the 53 bits, but for the least unit. -/
theorem FitsAt.le_div (h : FitsAt v e) : ((2 ^ 52 : Nat) : ℚ) ≤ v / 2 ^ e ∨ e = -1074 := by
  rw [le_div_iff₀ (zpow_pos two_pos e), ← two_zpow_add]
  exact h.le

/-- Both multiples of the unit next to `v` are numbers. -/
theorem FitsAt.exists_value_eq (h : FitsAt v e) (hv : 0 ≤ v) {n : Nat}
    (hle : ⌊v / 2 ^ e⌋₊ ≤ n) (hle' : n ≤ ⌊v / 2 ^ e⌋₊ + 1) :
    ∃ x : Binary64, x.value = n * 2 ^ e ∧ (Even n → Even x.significand) := by
  have hnonneg : 0 ≤ v / 2 ^ e := div_nonneg hv (zpow_pos two_pos e).le
  have hlt : ⌊v / 2 ^ e⌋₊ < 2 ^ 53 := (Nat.floor_lt hnonneg).2 h.div_lt
  refine Binary64.exists_value_eq (by omega) h.least_le ?_
  exact h.le_div.imp (fun hnormal => (Nat.le_floor hnormal).trans hle) id

/-- A number nearest to `v` is a multiple of the unit of `v`, as is everything that comes into
question, and so the multiple is nearest among natural numbers. -/
theorem exists_roundsEven (hfits : FitsAt v e) (hv : 0 ≤ v) (h : x.NearestTo v) :
    ∃ n, RoundsEven (v / 2 ^ e) n ∧ x.value = n * 2 ^ e := by
  have hnonneg : 0 ≤ v / 2 ^ e := div_nonneg hv (zpow_pos two_pos e).le
  -- the smallest normal number of this unit is not above `v`, so neither is it above `x`
  have hnormal : 2 ^ (e + 52) ≤ x.value ∨ e = -1074 := by
    refine hfits.le.imp (fun hle => ?_) id
    obtain ⟨y, hy, -⟩ :=
      Binary64.exists_value_eq (by norm_num : 2 ^ 52 ≤ 2 ^ 53) hfits.least_le (.inl le_rfl)
    have hvalue : y.value = 2 ^ (e + 52) := hy.trans (two_zpow_add e 52).symm
    rw [← hvalue] at hle ⊢
    exact h.le_value hle
  obtain ⟨k, hk⟩ := value_eq_multiple hnormal
  -- only the two multiples next to `v` have to be compared, and both are numbers
  refine ⟨x.significand * 2 ^ k, roundsEven_of_neighbours hnonneg ?_ ?_, hk⟩
  · intro m hle hle'
    obtain ⟨y, hy, -⟩ := hfits.exists_value_eq hv hle hle'
    rw [← abs_sub_multiple_le_iff, ← hk, ← hy]
    exact h.nearest y
  · intro m hle hle' hne htie
    obtain ⟨y, hy, -⟩ := hfits.exists_value_eq hv hle hle'
    refine Even.mul_right (h.even_of_tie y ?_ ?_) _
    · rw [hy, hk]
      intro heq
      exact hne (by exact_mod_cast mul_right_cancel₀ (zpow_pos two_pos e).ne' heq)
    · rw [hy, hk, abs_sub_multiple, abs_sub_multiple, htie]

/-- A number that is no multiple of the unit is farther away than the smallest that is normal. -/
theorem FitsAt.multiple_or_lt (h : FitsAt v e) (y : Binary64) :
    (∃ m : Nat, y.value = m * 2 ^ e)
      ∨ |v - (2 ^ 52 : Nat) * 2 ^ e| < |v - y.value| := by
  by_cases hnormal : 2 ^ (e + 52) ≤ y.value ∨ e = -1074
  · obtain ⟨k, hk⟩ := value_eq_multiple hnormal
    exact .inl ⟨_, hk⟩
  · right
    obtain ⟨hy, he⟩ := not_or.1 hnormal
    have hle := h.le.resolve_right he
    have hunit : ((2 ^ 52 : Nat) : ℚ) * 2 ^ e = 2 ^ (e + 52) := (two_zpow_add e 52).symm
    rw [hunit, abs_of_nonneg (by linarith), abs_of_nonneg (by linarith)]
    linarith

/-- Conversely the nearest multiple of the unit is a number nearest to `v`. -/
theorem exists_nearestTo_of_roundsEven (hfits : FitsAt v e) (hv : 0 ≤ v) {n : Nat}
    (hn : RoundsEven (v / 2 ^ e) n) : ∃ x : Binary64, x.NearestTo v ∧ x.value = n * 2 ^ e := by
  have hnonneg : 0 ≤ v / 2 ^ e := div_nonneg hv (zpow_pos two_pos e).le
  have hnear : ∀ m : Nat, |v - n * 2 ^ e| ≤ |v - m * 2 ^ e| :=
    fun m => abs_sub_multiple_le_iff.2 (hn.near_le m)
  obtain ⟨x, hx, heven⟩ := hfits.exists_value_eq hv (hn.floor_le hnonneg) hn.le_floor_add_one
  refine ⟨x, ⟨fun y => ?_, fun y hne htie => heven (hn.even ?_)⟩, hx⟩
  · rw [hx]
    -- numbers that are no multiples are out of question
    rcases hfits.multiple_or_lt y with ⟨m, hy⟩ | hlt
    · rw [hy]
      exact hnear m
    · exact (hnear _).trans hlt.le
  · rw [hx] at hne htie
    rcases hfits.multiple_or_lt y with ⟨m, hy⟩ | hlt
    · rw [hy] at hne htie
      rw [abs_sub_multiple, abs_sub_multiple] at htie
      have heq := mul_right_cancel₀ (zpow_pos two_pos e).ne' htie
      have hmn : m ≠ n := by
        rintro rfl
        exact hne rfl
      have hhalf := hn.half_le hmn
      rw [heq] at hhalf
      exact le_antisymm hn.near hhalf
    · exact absurd htie (((hnear _).trans_lt hlt).ne')

/-! ### What can be rounded -/

/-- The unit is read off the binary logarithm, or is the least one where that would be too small. -/
theorem exists_fitsAt (v : ℚ) : ∃ e, FitsAt v e := by
  -- below the normal numbers there is one unit only
  rcases lt_or_ge v (2 ^ (-1021 : Int)) with hsmall | hlarge
  · exact ⟨-1074, le_rfl, hsmall, .inr rfl⟩
  · have hpos : 0 < v := (zpow_pos two_pos _).trans_le hlarge
    have hlog : -1021 ≤ Int.log 2 v :=
      (Int.zpow_le_iff_le_log one_lt_two hpos).1 (by exact_mod_cast hlarge)
    refine ⟨Int.log 2 v - 52, by omega, ?_, .inl ?_⟩
    · have hlt := Int.lt_zpow_succ_log_self one_lt_two v
      have hexponent : Int.log 2 v - 52 + 53 = Int.log 2 v + 1 := by omega
      rw [hexponent]
      exact_mod_cast hlt
    · rw [sub_add_cancel]
      exact_mod_cast Int.zpow_log_le_self one_lt_two hpos

/-- Everything that is not negative is rounded to some number. -/
theorem exists_nearestTo (hv : 0 ≤ v) : ∃ x : Binary64, x.NearestTo v := by
  obtain ⟨e, hfits⟩ := exists_fitsAt v
  obtain ⟨n, hn⟩ := exists_roundsEven_of_nonneg (div_nonneg hv (zpow_pos two_pos e).le)
  obtain ⟨x, hx, -⟩ := exists_nearestTo_of_roundsEven hfits hv hn
  exact ⟨x, hx⟩

/-- No power of two within the exponents is passed in rounding. -/
theorem exists_value_eq_two_zpow (he : -1022 ≤ e) : ∃ x : Binary64, x.value = 2 ^ e := by
  obtain ⟨x, hx, -⟩ := exists_value_eq (by norm_num : 2 ^ 52 ≤ 2 ^ 53)
    (by omega : -1074 ≤ e - 52) (.inl le_rfl)
  refine ⟨x, hx.trans ?_⟩
  have hunit : (2 : ℚ) ^ (e - 52 + 52) = (2 ^ 52 : Nat) * 2 ^ (e - 52) := two_zpow_add _ 52
  rw [← hunit, sub_add_cancel]

/-- Rounding up stops at a power of two. -/
theorem NearestTo.value_le_two_zpow (h : x.NearestTo v) (he : -1022 ≤ e) (hv : v ≤ 2 ^ e) :
    x.value ≤ 2 ^ e := by
  obtain ⟨y, hy⟩ := exists_value_eq_two_zpow he
  rw [← hy] at hv ⊢
  exact h.value_le hv

theorem NearestTo.two_zpow_le_value (h : x.NearestTo v) (he : -1022 ≤ e) (hv : 2 ^ e ≤ v) :
    2 ^ e ≤ x.value := by
  obtain ⟨y, hy⟩ := exists_value_eq_two_zpow he
  rw [← hy] at hv ⊢
  exact h.le_value hv

/-- Up to a half nothing is rounded to 1. -/
theorem NearestTo.floor_value_eq_zero (h : x.NearestTo v) (hv : v ≤ 2 ^ (-1 : Int)) :
    ⌊x.value⌋₊ = 0 := by
  have hle : x.value ≤ 2 ^ (-1 : Int) := h.value_le_two_zpow (by norm_num) hv
  exact Nat.floor_eq_zero.2 (hle.trans_lt (by norm_num))

/-- Rounding reaches the next power of two half a unit before it: in the middle of the last step is
a tie, which goes up. -/
theorem NearestTo.value_lt_iff (h : x.NearestTo v) (hv : 0 ≤ v) (he : -1022 ≤ e) :
    x.value < 2 ^ (e + 53) ↔ v < 2 ^ (e + 53) - 2 ^ (e - 1) := by
  have hunit : (0 : ℚ) < 2 ^ e := zpow_pos two_pos _
  have hlimit : (2 : ℚ) ^ (e + 53) = (2 ^ 53 : Nat) * 2 ^ e := two_zpow_add e 53
  have hbottom : (2 : ℚ) ^ (e + 52) = (2 ^ 52 : Nat) * 2 ^ e := two_zpow_add e 52
  have hhalf : (2 : ℚ) ^ (e - 1) = 2 ^ e / 2 := zpow_sub_one₀ two_ne_zero e
  -- far below the power, in its last binade, or past it
  rcases lt_or_ge v (2 ^ (e + 52)) with hsmall | hlarge
  · have hx := h.value_le_two_zpow (by omega) hsmall.le
    rw [hlimit, hhalf]
    rw [hbottom] at hsmall hx
    push_cast at hsmall hx ⊢
    constructor <;> intro <;> linarith
  rcases lt_or_ge v (2 ^ (e + 53)) with hbelow | habove
  · obtain ⟨n, hn, hx⟩ := exists_roundsEven ⟨by omega, hbelow, .inl hlarge⟩ hv h
    rw [hx, hlimit, hhalf, mul_lt_mul_iff_left₀ hunit, Nat.cast_lt]
    have hscale : v < (2 ^ 53 : Nat) * 2 ^ e - 2 ^ e / 2 ↔ v / 2 ^ e < (2 ^ 53 : Nat) - 1 / 2 := by
      rw [div_lt_iff₀ hunit, sub_mul, one_div, inv_mul_eq_div]
    rw [hscale]
    exact hn.lt_iff_of_even (Nat.even_pow.2 ⟨even_two, by norm_num⟩)
  · have hx := h.two_zpow_le_value (by omega) habove
    have hpos : (0 : ℚ) < 2 ^ (e - 1) := zpow_pos two_pos _
    constructor <;> intro <;> linarith

end Binary64

/-! ## The floor of the nearest number -/

open Binary64

section

variable {num den : Nat}

/-- The logarithm of the doubled quotient, without the division. -/
theorem two_pow_log2_mul_le (hden : 0 < den) (hhalf : den ≤ 2 * num) :
    2 ^ (2 * num / den).log2 * den ≤ 2 * num :=
  (Nat.le_div_iff_mul_le hden).1 (Nat.log2_self_le (Nat.div_pos hhalf hden).ne')

/-- The exponent that the computation takes is the one that the quotient has, from a half on. -/
theorem fitsAt_log2 (hden : 0 < den) (hhalf : den ≤ 2 * num) :
    FitsAt (num / den) ((2 * num / den).log2 - 53) := by
  have hdenq : (0 : ℚ) < den := by exact_mod_cast hden
  have hle := two_pow_log2_mul_le hden hhalf
  have hlt : 2 * num < 2 ^ ((2 * num / den).log2 + 1) * den :=
    (Nat.div_lt_iff_lt_mul hden).1 Nat.lt_log2_self
  generalize (2 * num / den).log2 = k at hle hlt
  have hleq : (2 : ℚ) ^ k * den ≤ 2 * num := by exact_mod_cast hle
  have hltq : (2 : ℚ) * num < 2 ^ (k + 1) * den := by exact_mod_cast hlt
  refine ⟨by omega, ?_, .inl ?_⟩
  · rw [sub_add_cancel, zpow_natCast, div_lt_iff₀ hdenq]
    rw [pow_succ] at hltq
    linarith
  · have hexponent : (k : Int) - 53 + 52 = k - 1 := by omega
    rw [hexponent, zpow_sub_one₀ two_ne_zero, zpow_natCast, le_div_iff₀ hdenq]
    linarith

theorem two_zpow_sub_of_le {k m : Nat} (h : k ≤ m) :
    (2 : ℚ) ^ ((k : Int) - m) = ((2 ^ (m - k) : Nat) : ℚ)⁻¹ := by
  have hexponent : (k : Int) - m = -((m - k : Nat) : Int) := by omega
  rw [hexponent, zpow_neg, zpow_natCast, Nat.cast_pow]
  rfl

theorem two_zpow_sub_of_ge {k m : Nat} (h : m ≤ k) :
    (2 : ℚ) ^ ((k : Int) - m) = (2 ^ (k - m) : Nat) := by
  have hexponent : (k : Int) - m = ((k - m : Nat) : Int) := by omega
  rw [hexponent, zpow_natCast, Nat.cast_pow]
  rfl

/-- The rounded quotient is the quotient without its rest, or the number after it. -/
theorem divRoundEven_bounds (num den : Nat) :
    num / den ≤ divRoundEven num den ∧ divRoundEven num den ≤ num / den + 1 := by
  unfold divRoundEven
  simp only
  split <;> omega

/-- Below a half both are 0. -/
theorem floorNearest_eq_zero (hden : 0 < den) (hhalf : 2 * num < den) :
    floorNearest num den = 0 := by
  -- scaled by `2^53` the quotient is below `2^52`, and rounding adds at most one
  have hlt : num * 2 ^ 53 / den < 2 ^ 52 := by
    rw [Nat.div_lt_iff_lt_mul hden]
    omega
  have hle := (divRoundEven_bounds (num * 2 ^ 53) den).2
  have hlog : (2 * num / den).log2 = 0 := by
    rw [Nat.div_eq_of_lt hhalf]
    rfl
  unfold floorNearest
  simp only [hlog, Nat.zero_le, if_true, Nat.sub_zero, Nat.shiftLeft_eq, Nat.shiftRight_eq_div_pow]
  omega

/-- The computation takes the floor of the number that the quotient is rounded to. -/
theorem floorNearest_eq (hden : 0 < den) {x : Binary64} (h : x.NearestTo (num / den)) :
    floorNearest num den = ⌊x.value⌋₊ := by
  have hdenq : (0 : ℚ) < den := by exact_mod_cast hden
  have hv : 0 ≤ (num : ℚ) / den := by positivity
  -- below a half the exponent is not that of the quotient, so this case stands apart
  rcases Nat.lt_or_ge (2 * num) den with hhalf | hhalf
  · have hle : (num : ℚ) / den ≤ 2 ^ (-1 : Int) := by
      have hltq : (2 : ℚ) * num < den := by exact_mod_cast hhalf
      rw [zpow_neg_one, div_le_iff₀ hdenq]
      linarith
    rw [floorNearest_eq_zero hden hhalf, h.floor_value_eq_zero hle]
  · obtain ⟨n, hn, hx⟩ := exists_roundsEven (fitsAt_log2 hden hhalf) hv h
    rw [hx]
    unfold floorNearest
    simp only
    generalize (2 * num / den).log2 = k at hn
    split
    · -- the unit is a fraction, so the dividend is scaled
      rename_i hk
      have hunit : (2 : ℚ) ^ ((k : Int) - 53) = ((2 ^ (53 - k) : Nat) : ℚ)⁻¹ :=
        two_zpow_sub_of_le hk
      have hscale : (num : ℚ) / den / 2 ^ ((k : Int) - 53) = (num <<< (53 - k) : Nat) / den := by
        rw [hunit, Nat.shiftLeft_eq, Nat.cast_mul]
        field_simp
      rw [hscale] at hn
      rw [(roundsEven_divRoundEven _ hden).unique hn, hunit, ← div_eq_mul_inv,
        Nat.floor_div_eq_div, Nat.shiftRight_eq_div_pow]
    · -- the unit is a whole number, so the divisor is scaled
      rename_i hk
      have hunit : (2 : ℚ) ^ ((k : Int) - 53) = (2 ^ (k - 53) : Nat) :=
        two_zpow_sub_of_ge (not_le.1 hk).le
      have hscale : (num : ℚ) / den / 2 ^ ((k : Int) - 53) = num / (den <<< (k - 53) : Nat) := by
        rw [hunit, Nat.shiftLeft_eq, Nat.cast_mul, div_div]
      rw [hscale] at hn
      have hpos : 0 < den <<< (k - 53) := by
        rw [Nat.shiftLeft_eq]
        positivity
      rw [(roundsEven_divRoundEven _ hpos).unique hn, hunit, ← Nat.cast_mul, Nat.floor_natCast,
        Nat.shiftLeft_eq]

/-- On a scale of at least half the divisor rounding does not reach the next whole number. -/
theorem divRoundEven_mul_div {unit : Nat} (hden : 0 < den) (hunit : den < 2 * unit) :
    divRoundEven (num * unit) den / unit = num / den := by
  -- the scaled quotient stays a whole `unit` below the next multiple of it
  have hstep : num * unit + unit ≤ (num / den + 1) * unit * den := by
    have hlt : num + 1 ≤ (num / den + 1) * den :=
      (Nat.div_lt_iff_lt_mul hden).1 (Nat.lt_succ_self _)
    calc num * unit + unit = (num + 1) * unit := by ring
      _ ≤ (num / den + 1) * den * unit := Nat.mul_le_mul_right _ hlt
      _ = (num / den + 1) * unit * den := by ring
  have hlow : num / den * unit ≤ num * unit / den := by
    rw [Nat.le_div_iff_mul_le hden, Nat.mul_right_comm]
    exact Nat.mul_le_mul_right _ (Nat.div_mul_le_self num den)
  have hhigh : divRoundEven (num * unit) den < (num / den + 1) * unit := by
    have hdivision := Nat.div_add_mod (num * unit) den
    have hlt : num * unit / den < (num / den + 1) * unit :=
      (Nat.div_lt_iff_lt_mul hden).2 (by omega)
    unfold divRoundEven
    simp only [Bool.or_eq_true, Bool.and_eq_true, decide_eq_true_eq, beq_iff_eq]
    split
    · exact hlt
    · -- rounding up would have to bridge a whole unit with at most half the divisor
      rename_i hup
      by_contra hge
      have heq : (num / den + 1) * unit = num * unit / den + 1 := by omega
      rw [heq, Nat.add_mul, Nat.mul_comm _ den] at hstep
      omega
  exact Nat.div_eq_of_lt_le (hlow.trans (divRoundEven_bounds _ _).1) hhigh

/-- Quotients of numbers with 53 bits are floored exactly: the next whole number is too far away to
be rounded to. -/
theorem floorNearest_of_lt (hden : 0 < den) (hnum : num < 2 ^ 53) :
    floorNearest num den = num / den := by
  rcases Nat.lt_or_ge (2 * num) den with hhalf | hhalf
  · rw [floorNearest_eq_zero hden hhalf, Nat.div_eq_of_lt (by omega)]
  · have hle := two_pow_log2_mul_le hden hhalf
    unfold floorNearest
    simp only
    generalize (2 * num / den).log2 = k at hle
    have hlt : 2 ^ k * den < 2 ^ 54 := by omega
    have hk : k < 54 :=
      (Nat.pow_lt_pow_iff_right one_lt_two).1 ((Nat.le_mul_of_pos_right _ hden).trans_lt hlt)
    have hsplit : 2 ^ k * (2 * 2 ^ (53 - k)) = 2 ^ 54 := by
      rw [mul_left_comm, ← pow_add, Nat.add_sub_cancel' (by omega)]
      rfl
    rw [if_pos (by omega), Nat.shiftLeft_eq, Nat.shiftRight_eq_div_pow]
    exact divRoundEven_mul_div hden (Nat.lt_of_mul_lt_mul_left (hlt.trans_eq hsplit.symm))

/-- A tie between two whole numbers: the first one past 53 bits has no number of its own. -/
example : floorNearest 9007199254740993 1 = 9007199254740992 := by decide +kernel

end

end Compendium.Text
