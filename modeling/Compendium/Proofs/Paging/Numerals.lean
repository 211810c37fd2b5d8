import Mathlib.Tactic.NormNum
import Compendium.Paging
import Compendium.Proofs.Paging.Binary64

/-!
# Compendium — numerals as pages and limits

A page or a limit may be given as a decimal numeral, which is rounded down. A whole number that fits
a word is read as it is. Any other numeral is first rounded to a binary64 number, so that the floor
is that of its neighbour: a numeral close enough below a whole number comes to this number, and one
too large to be finite to none.

* `Numeral.floorSize?_eq` is the floor of any numeral, with the cuts that spare large powers of ten.
* `positive?_eq_of_nearestTo` and `positive?_of_digits` are the two ways in which a text is read.
* `numerals_floor_their_nearest` says what every plain numeral comes to, and which are exact.
* `a_limit_below_three_is_three` is a numeral that is not.
-/

namespace Compendium

namespace Text

/-! ## The size of a numeral -/

def Numeral.size (n : Numeral) : ℚ := n.digits * 10 ^ n.exponent

theorem lt_ten_pow_decimalLength (n : Nat) : n < 10 ^ decimalLength n :=
  (Nat.length_toDigits_le_iff (by decide) Nat.length_toDigits_pos).1 le_rfl

theorem ten_pow_decimalLength_le {n : Nat} (hn : n ≠ 0) : 10 ^ (decimalLength n - 1) ≤ n := by
  by_contra hlt
  have hpos : 0 < decimalLength n := Nat.length_toDigits_pos
  rcases Nat.eq_zero_or_pos (decimalLength n - 1) with hone | hmore
  · rw [hone] at hlt
    omega
  · have hle : decimalLength n ≤ decimalLength n - 1 :=
      (Nat.length_toDigits_le_iff (by decide) hmore).2 (not_le.1 hlt)
    omega

namespace Numeral

variable {n : Numeral} {x : Binary64}

/-- The first digit stands no higher than the length and the exponent tell. -/
theorem size_lt (n : Numeral) : n.size < 10 ^ (decimalLength n.digits + n.exponent) := by
  rw [zpow_add₀ (by norm_num), zpow_natCast]
  have hlt : (n.digits : ℚ) < 10 ^ decimalLength n.digits := by
    exact_mod_cast lt_ten_pow_decimalLength n.digits
  exact mul_lt_mul_of_pos_right hlt (zpow_pos (by norm_num) _)

/-- A numeral that is not zero has a first digit that counts. -/
theorem le_size (hn : n.digits ≠ 0) :
    10 ^ (decimalLength n.digits + n.exponent - 1) ≤ n.size := by
  -- the length is taken apart by one, so that the powers of ten stay natural
  have hpos : 0 < decimalLength n.digits := Nat.length_toDigits_pos
  have hexponent : (decimalLength n.digits + n.exponent - 1 : Int)
      = (decimalLength n.digits - 1 : Nat) + n.exponent := by omega
  rw [hexponent, zpow_add₀ (by norm_num), zpow_natCast]
  have hle : (10 : ℚ) ^ (decimalLength n.digits - 1) ≤ n.digits := by
    exact_mod_cast ten_pow_decimalLength_le hn
  exact mul_le_mul_of_nonneg_right hle (zpow_pos (by norm_num) _).le

/-- The numerals that the computation divides have the size of the numeral as their quotient. -/
theorem size_eq_div (n : Numeral) :
    n.size = (n.digits * Nat.pow 10 n.exponent.toNat : Nat)
      / (Nat.pow 10 (-n.exponent).toNat : Nat) := by
  show n.size = (n.digits * 10 ^ n.exponent.toNat : Nat) / (10 ^ (-n.exponent).toNat : Nat)
  rw [size]
  rcases le_total 0 n.exponent with h | h
  · have hneg : (-n.exponent).toNat = 0 := by omega
    have hexponent : n.exponent = n.exponent.toNat := by omega
    rw [hneg, pow_zero, Nat.cast_one, div_one, Nat.cast_mul, Nat.cast_pow, ← zpow_natCast,
      ← hexponent]
    rfl
  · have hpos : n.exponent.toNat = 0 := by omega
    have hexponent : n.exponent = -((-n.exponent).toNat : Int) := by omega
    rw [hpos, pow_zero, mul_one, Nat.cast_pow, div_eq_mul_inv, ← zpow_natCast, ← zpow_neg,
      ← hexponent]
    rfl

/-- The cut below: a numeral without digits before the point or right after it. -/
theorem size_le_half (h : n.digits = 0 ∨ decimalLength n.digits + n.exponent < 0) :
    n.size ≤ 2 ^ (-1 : Int) := by
  rcases h with hzero | hsmall
  · rw [size, hzero, Nat.cast_zero, zero_mul]
    exact (zpow_pos two_pos _).le
  · calc n.size ≤ 10 ^ (decimalLength n.digits + n.exponent) := n.size_lt.le
      _ ≤ (10 : ℚ) ^ (-1 : Int) := zpow_le_zpow_right₀ (by norm_num) (by omega)
      _ ≤ 2 ^ (-1 : Int) := by norm_num

/-- The cut above: a numeral with more than 310 digits before the point. -/
theorem limit_le_size (hdigits : n.digits ≠ 0)
    (h : 310 < decimalLength n.digits + n.exponent) : 2 ^ (1024 : Int) ≤ n.size := by
  have hpow : (2 : ℚ) ^ (1024 : Int) ≤ 10 ^ (310 : Int) := by
    have hcast : ∀ b k : Nat, ((b ^ k : Nat) : ℚ) = (b : ℚ) ^ (k : Int) := by
      intro b k
      rw [zpow_natCast, Nat.cast_pow]
    have hle : 2 ^ 1024 ≤ 10 ^ 310 := by decide +kernel
    have hleq : ((2 ^ 1024 : Nat) : ℚ) ≤ (10 ^ 310 : Nat) := Nat.cast_le.2 hle
    rw [hcast, hcast] at hleq
    exact hleq
  calc (2 : ℚ) ^ (1024 : Int) ≤ 10 ^ (310 : Int) := hpow
    _ ≤ 10 ^ (decimalLength n.digits + n.exponent - 1) :=
      zpow_le_zpow_right₀ (by norm_num) (by omega)
    _ ≤ n.size := n.le_size hdigits

end Numeral

/-- The limit is the first power of two past the exponents. -/
theorem cast_binary64Limit : (binary64Limit : ℚ) = 2 ^ (1024 : Int) := by
  have hshift : ∀ k : Nat, ((1 <<< k : Nat) : ℚ) = 2 ^ (k : Int) := by
    intro k
    rw [Nat.one_shiftLeft, Nat.cast_pow, zpow_natCast]
    rfl
  exact hshift 1024

/-- The floor of a numeral is that of the number it is rounded to, if that is finite. -/
theorem Numeral.floorSize?_eq {n : Numeral} {x : Binary64} (h : x.NearestTo n.size) :
    n.floorSize? = if x.value < 2 ^ (1024 : Int) then some ⌊x.value⌋₊ else none := by
  unfold floorSize?
  simp only
  -- the cut below, the cut above, and the quotient between them
  split
  · rename_i hsmall
    have hhalf := n.size_le_half hsmall
    have hfinite : x.value < 2 ^ (1024 : Int) :=
      (h.value_le_two_zpow (by norm_num) hhalf).trans_lt
        (zpow_lt_zpow_right₀ one_lt_two (by norm_num))
    rw [if_pos hfinite, h.floor_value_eq_zero hhalf]
  · rename_i hsmall
    split
    · rename_i hlarge
      have hdigits : n.digits ≠ 0 := fun hzero => hsmall (.inl hzero)
      have hx := h.two_zpow_le_value (by norm_num) (n.limit_le_size hdigits hlarge)
      rw [if_neg (not_lt.2 hx)]
    · have hden : 0 < Nat.pow 10 (-n.exponent).toNat := Nat.pow_pos (by norm_num)
      rw [size_eq_div] at h
      rw [floorNearest_eq hden h]
      -- whether the number is finite is asked of its floor
      have hlimit : ⌊x.value⌋₊ < binary64Limit ↔ x.value < 2 ^ (1024 : Int) := by
        rw [Nat.floor_lt x.value_nonneg, cast_binary64Limit]
      simp only [hlimit]

/-! ## Plain numerals -/

/-- The text is digits and nothing else, but for a point and more digits if `fraction` has any. -/
structure IsDecimal (text : String) (whole fraction : List Char) : Prop where
  toList_eq : text.toList = whole ++ if fraction = [] then [] else '.' :: fraction
  whole_ne_nil : whole ≠ []
  whole_digits : ∀ c ∈ whole, c.isDigit
  fraction_digits : ∀ c ∈ fraction, c.isDigit

instance (text : String) (whole fraction : List Char) :
    Decidable (IsDecimal text whole fraction) :=
  decidable_of_iff
    ((text.toList = whole ++ if fraction = [] then [] else '.' :: fraction) ∧ whole ≠ []
      ∧ whole.all Char.isDigit ∧ fraction.all Char.isDigit)
    ⟨fun ⟨hchars, hne, hwhole, hfraction⟩ =>
        ⟨hchars, hne, List.all_eq_true.1 hwhole, List.all_eq_true.1 hfraction⟩,
      fun h => ⟨h.toList_eq, h.whole_ne_nil, List.all_eq_true.2 h.whole_digits,
        List.all_eq_true.2 h.fraction_digits⟩⟩

/-- The number that the digits before and after the point spell. -/
def decimalValue (whole fraction : List Char) : ℚ :=
  digitsValue whole + digitsValue fraction / 10 ^ fraction.length

theorem digitsValue_append (a b : List Char) :
    digitsValue (a ++ b) = 10 ^ b.length * digitsValue a + digitsValue b := by
  show Nat.ofDigitChars 10 (a ++ b) 0 = 10 ^ b.length * Nat.ofDigitChars 10 a 0
    + Nat.ofDigitChars 10 b 0
  rw [Nat.ofDigitChars_append, Nat.ofDigitChars_eq_ofDigitChars_zero]

/-- Without the point the digits spell a whole number, of which the point takes tenths. -/
theorem decimalValue_eq_div (whole fraction : List Char) :
    decimalValue whole fraction
      = (digitsValue (whole ++ fraction) : Nat) / (10 ^ fraction.length : Nat) := by
  rw [decimalValue, digitsValue_append]
  push_cast
  rw [add_div, mul_div_cancel_left₀ _ (pow_ne_zero _ (by norm_num))]

theorem decimalValue_nonneg (whole fraction : List Char) : 0 ≤ decimalValue whole fraction := by
  unfold decimalValue
  positivity

/-- Without a fraction the value is the whole number. -/
theorem decimalValue_nil (whole : List Char) : decimalValue whole [] = digitsValue whole := by
  simp [decimalValue, digitsValue]

namespace IsDecimal

variable {text : String} {whole fraction : List Char}

/-- A plain numeral starts with a digit, and so with no sign. -/
theorem exists_cons (h : IsDecimal text whole fraction) :
    ∃ c cs, text.toList = c :: cs ∧ c.isDigit := by
  rcases hwhole : whole with _ | ⟨c, cs⟩
  · exact absurd hwhole h.whole_ne_nil
  · refine ⟨c, cs ++ if fraction = [] then [] else '.' :: fraction, ?_, ?_⟩
    · rw [h.toList_eq, hwhole, List.cons_append]
    · exact h.whole_digits c (by rw [hwhole]; exact List.mem_cons_self)

/-- There is no sign to be taken off. -/
theorem takeSign_eq (h : IsDecimal text whole fraction) :
    Numeral.takeSign text.toList = (false, text.toList) := by
  obtain ⟨c, cs, hcons, hdigit⟩ := h.exists_cons
  rw [hcons]
  unfold Numeral.takeSign
  -- both signs contradict the digit in front
  split
  · rename_i heq
    cases heq
    exact absurd hdigit (by decide)
  · rename_i heq
    cases heq
    exact absurd hdigit (by decide)
  · rfl

theorem unsigned?_eq (h : IsDecimal text whole fraction) :
    unsigned? text.toList = natural? text.toList := by
  obtain ⟨c, cs, hcons, hdigit⟩ := h.exists_cons
  rw [hcons]
  unfold unsigned?
  split
  · rename_i heq
    cases heq
    exact absurd hdigit (by decide)
  · rfl

/-- Only a numeral without a fraction is a natural number. -/
theorem natural?_eq (h : IsDecimal text whole fraction) :
    natural? text.toList = if fraction = [] then some (digitsValue whole) else none := by
  rw [h.toList_eq]
  split
  · rw [List.append_nil, natural?, if_pos]
    simpa using ⟨h.whole_ne_nil, h.whole_digits⟩
  · rw [natural?, if_neg]
    simp

end IsDecimal

/-- Digits are taken as long as there are any. -/
theorem span_isDigit {digits rest : List Char} (hdigits : ∀ c ∈ digits, c.isDigit)
    (hrest : ∀ c ∈ rest.head?, c.isDigit = false) :
    (digits ++ rest).span Char.isDigit = (digits, rest) := by
  rw [List.span_eq_takeWhile_dropWhile, List.takeWhile_append_of_pos hdigits,
    List.dropWhile_append_of_pos hdigits]
  rcases rest with _ | ⟨c, cs⟩
  · simp
  · have hc : c.isDigit = false := hrest c rfl
    simp [hc]

/-- The digits are taken up to the point, then those after it, and nothing is left. -/
theorem IsDecimal.parse?_eq {text : String} {whole fraction : List Char}
    (h : IsDecimal text whole fraction) :
    Numeral.parse? text.toList
      = some ⟨false, digitsValue (whole ++ fraction), -fraction.length⟩ := by
  -- the span of digits ends at the point or with the text
  have hwhole : text.toList.span Char.isDigit
      = (whole, if fraction = [] then [] else '.' :: fraction) := by
    rw [h.toList_eq]
    refine span_isDigit h.whole_digits ?_
    split <;> simp
  have hfraction : Numeral.takeFraction (if fraction = [] then [] else '.' :: fraction)
      = (fraction, []) := by
    split
    · rename_i hnil
      rw [hnil]
      rfl
    · have hspan : (fraction ++ []).span Char.isDigit = (fraction, []) :=
        span_isDigit h.fraction_digits (by simp)
      rw [List.append_nil] at hspan
      exact hspan
  have hempty : whole.isEmpty = false := List.isEmpty_eq_false_iff.2 h.whole_ne_nil
  unfold Numeral.parse?
  rw [h.takeSign_eq]
  simp only [hwhole, hfraction, hempty, Bool.false_and, Bool.false_eq_true, if_false,
    Numeral.exponent?, Option.map_some, zero_sub]

/-- The size of the numeral is the number that it spells. -/
theorem size_eq_decimalValue (whole fraction : List Char) :
    Numeral.size ⟨false, digitsValue (whole ++ fraction), -fraction.length⟩
      = decimalValue whole fraction := by
  rw [decimalValue_eq_div, Numeral.size, zpow_neg, zpow_natCast, div_eq_mul_inv, Nat.cast_pow]
  rfl

/-- A plain numeral is a word if it has no fraction and is not too large. -/
theorem IsDecimal.uint64?_eq {text : String} {whole fraction : List Char}
    (h : IsDecimal text whole fraction) :
    uint64? text = if fraction = [] ∧ digitsValue whole ≤ maxUInt64
      then some (UInt64.ofNat (digitsValue whole)) else none := by
  rw [uint64?, h.unsigned?_eq, h.natural?_eq]
  by_cases hfraction : fraction = []
  · simp only [hfraction, if_true, true_and, Option.bind_some]
    have hiff : digitsValue whole < UInt64.size ↔ digitsValue whole ≤ maxUInt64 := by
      show _ < 0x10000000000000000 ↔ _ ≤ 0xFFFFFFFFFFFFFFFF
      omega
    simp only [hiff]
  · simp [hfraction]

end Text

open Text

/-! ## Reading -/

/-- The floor of a number from 1 on, as far as words go. -/
def floorWord (v : ℚ) : Option UInt64 :=
  if v < 1 then none else some (clampUInt64 ⌊v⌋₊)

theorem floorWord_eq (v : ℚ) :
    floorWord v = if ⌊v⌋₊ = 0 then none else some (clampUInt64 ⌊v⌋₊) := by
  simp only [floorWord, Nat.floor_eq_zero]

/-- The floor of a numeral's value is a quotient of whole numbers. -/
theorem floorWord_decimalValue (whole fraction : List Char) :
    floorWord (decimalValue whole fraction)
      = if digitsValue (whole ++ fraction) / 10 ^ fraction.length = 0 then none
        else some (clampUInt64 (digitsValue (whole ++ fraction) / 10 ^ fraction.length)) := by
  rw [floorWord_eq, decimalValue_eq_div, Nat.floor_div_eq_div]

/-- Only the floor of the value counts. -/
theorem floorWord_congr {v w : ℚ} (h : ⌊v⌋₊ = ⌊w⌋₊) : floorWord v = floorWord w := by
  rw [floorWord_eq, floorWord_eq, h]

/-- From the last word on there is only the last word. -/
theorem floorWord_of_le {v : ℚ} (h : (maxUInt64 : ℚ) ≤ v) :
    floorWord v = some (clampUInt64 maxUInt64) := by
  have hfloor : maxUInt64 ≤ ⌊v⌋₊ := Nat.le_floor h
  have hne : ⌊v⌋₊ ≠ 0 := (Nat.lt_of_lt_of_le (by decide) hfloor).ne'
  rw [floorWord_eq, if_neg hne, clampUInt64, clampUInt64, Nat.min_eq_right hfloor, Nat.min_self]

/-- The words end far below the numbers that are finite. -/
theorem lt_limit_of_lt {v : ℚ} (h : v < 2 ^ (65 : Int)) :
    v < 2 ^ (1024 : Int) - 2 ^ (970 : Int) := by
  have hword : (2 : ℚ) ^ (65 : Int) ≤ 2 ^ (1023 : Int) :=
    zpow_le_zpow_right₀ one_le_two (by norm_num)
  have hhalf : (2 : ℚ) ^ (970 : Int) ≤ 2 ^ (1023 : Int) :=
    zpow_le_zpow_right₀ one_le_two (by norm_num)
  have hdouble : (2 : ℚ) ^ (1024 : Int) = 2 ^ (1023 : Int) * 2 := zpow_add_one₀ two_ne_zero 1023
  rw [lt_sub_iff_add_lt, hdouble, mul_two]
  exact add_lt_add_of_lt_of_le (h.trans_le hword) hhalf

variable {raw : String} {whole fraction : List Char}

/-- A whole number that fits a word is read as it is. -/
theorem positive?_of_digits (h : IsDecimal (trim raw) whole [])
    (hfits : digitsValue whole ≤ maxUInt64) :
    positive? raw = floorWord (decimalValue whole []) := by
  have hclamp : clampUInt64 (digitsValue whole) = UInt64.ofNat (digitsValue whole) := by
    rw [clampUInt64, Nat.min_eq_left hfits]
  have hzero : clampUInt64 (digitsValue whole) = 0 ↔ digitsValue whole = 0 := by
    rw [← UInt64.toNat_inj, toNat_clampUInt64, Nat.min_eq_left hfits]
    rfl
  have hword : uint64? (trim raw) = some (clampUInt64 (digitsValue whole)) := by
    rw [h.uint64?_eq, if_pos ⟨rfl, hfits⟩, hclamp]
  unfold positive?
  simp only [hword, hzero]
  rw [floorWord_eq, decimalValue_nil, Nat.floor_natCast]

/-- Any other plain numeral is read as the number it is rounded to. -/
theorem positive?_eq_of_nearestTo (h : IsDecimal (trim raw) whole fraction)
    (hother : ¬(fraction = [] ∧ digitsValue whole ≤ maxUInt64)) {x : Binary64}
    (hx : x.NearestTo (decimalValue whole fraction)) :
    positive? raw = if x.value < 2 ^ (1024 : Int) then floorWord x.value else none := by
  rw [← size_eq_decimalValue] at hx
  unfold positive?
  simp only [h.uint64?_eq, if_neg hother, h.parse?_eq, Bool.false_eq_true, if_false,
    Numeral.floorSize?_eq hx, floorWord_eq]
  split <;> simp

/-- Whole numbers are read exactly until they are too large to be finite. -/
theorem positive?_of_whole (h : IsDecimal (trim raw) whole []) :
    positive? raw
      = if decimalValue whole [] < 2 ^ (1024 : Int) - 2 ^ (970 : Int)
        then floorWord (decimalValue whole []) else none := by
  -- as a word the number is exact; past the words only the last word is left, and the limit
  by_cases hfits : digitsValue whole ≤ maxUInt64
  · rw [positive?_of_digits h hfits, if_pos]
    have hword : (maxUInt64 : ℚ) < 2 ^ (65 : Int) := by norm_num [maxUInt64]
    rw [decimalValue_nil]
    exact lt_limit_of_lt (lt_of_le_of_lt (by exact_mod_cast hfits) hword)
  · have hvalue := decimalValue_nonneg whole []
    obtain ⟨x, hx⟩ := Binary64.exists_nearestTo hvalue
    have hlimit : x.value < 2 ^ (1024 : Int)
        ↔ decimalValue whole [] < 2 ^ (1024 : Int) - 2 ^ (970 : Int) :=
      hx.value_lt_iff hvalue (by norm_num : (-1022 : Int) ≤ 971)
    rw [positive?_eq_of_nearestTo h (fun hboth => hfits hboth.2) hx]
    simp only [hlimit]
    -- rounding does not lead back to the words
    have hword : (maxUInt64 : ℚ) + 1 = 2 ^ (64 : Int) := by norm_num [maxUInt64]
    have hpast : 2 ^ (64 : Int) ≤ decimalValue whole [] := by
      rw [← hword, decimalValue_nil]
      exact_mod_cast not_le.1 hfits
    have hpast' := hx.two_zpow_le_value (by norm_num) hpast
    rw [floorWord_of_le (by linarith), floorWord_of_le (by linarith)]

/-- So are numerals that would be whole numbers of 53 bits without the point. -/
theorem positive?_of_few_digits (h : IsDecimal (trim raw) whole fraction)
    (hfew : digitsValue (whole ++ fraction) < 2 ^ 53) :
    positive? raw = floorWord (decimalValue whole fraction) := by
  by_cases hword : fraction = [] ∧ digitsValue whole ≤ maxUInt64
  · obtain ⟨rfl, hfits⟩ := hword
    exact positive?_of_digits h hfits
  · obtain ⟨x, hx⟩ := Binary64.exists_nearestTo (decimalValue_nonneg whole fraction)
    have hden : 0 < 10 ^ fraction.length := Nat.pow_pos (by norm_num)
    rw [positive?_eq_of_nearestTo h hword hx]
    rw [decimalValue_eq_div] at hx ⊢
    -- both floors are the quotient of the digits by the power of ten
    have hfloor : ⌊x.value⌋₊ = ⌊((digitsValue (whole ++ fraction) : Nat) : ℚ)
        / (10 ^ fraction.length : Nat)⌋₊ := by
      rw [← floorNearest_eq hden hx, floorNearest_of_lt hden hfew, Nat.floor_div_eq_div]
    have hle : ((digitsValue (whole ++ fraction) : Nat) : ℚ) / (10 ^ fraction.length : Nat)
        ≤ 2 ^ (53 : Int) := by
      have hfewq : ((digitsValue (whole ++ fraction) : Nat) : ℚ) ≤ 2 ^ (53 : Int) := by
        exact_mod_cast hfew.le
      have hone : (1 : ℚ) ≤ (10 ^ fraction.length : Nat) := by exact_mod_cast hden
      exact (div_le_self (Nat.cast_nonneg _) hone).trans hfewq
    have hfinite : x.value < 2 ^ (1024 : Int) :=
      (hx.value_le_two_zpow (by norm_num) hle).trans_lt
        (zpow_lt_zpow_right₀ one_lt_two (by norm_num))
    rw [if_pos hfinite, floorWord_congr hfloor]

/-! ## Pages and limits -/

/-- As a page and as a limit the text comes to this number, and if it comes to none, to the first
page and to the default limit. -/
def Pagination.ReadsAs (raw : String) (n : Option UInt64) : Prop :=
  ∀ other defaultLimit, (ofTexts (some raw) other defaultLimit).page = n.getD 1
    ∧ (ofTexts other (some raw) defaultLimit).limit = n.getD defaultLimit

theorem Pagination.readsAs_positive? (raw : String) : ReadsAs raw (positive? raw) := by
  intro other defaultLimit
  simp only [ofTexts, Option.bind_some, and_self]

/-- What a plain decimal numeral comes to as a page or a limit. A whole number is kept, as far as
words go, unless it would be rounded to an infinite number. A numeral with a fraction is rounded to
binary64 first and floored then. The floor is that of the numeral itself if the digits, read without
the point, are a whole number of 53 bits. -/
theorem numerals_floor_their_nearest (h : IsDecimal (trim raw) whole fraction) :
    (fraction = [] → Pagination.ReadsAs raw
      (if decimalValue whole fraction < 2 ^ (1024 : Int) - 2 ^ (970 : Int)
        then floorWord (decimalValue whole fraction) else none))
    ∧ (fraction ≠ [] → ∀ x : Binary64, x.NearestTo (decimalValue whole fraction) →
      Pagination.ReadsAs raw (if x.value < 2 ^ (1024 : Int) then floorWord x.value else none))
    ∧ (digitsValue (whole ++ fraction) < 2 ^ 53 →
      Pagination.ReadsAs raw (floorWord (decimalValue whole fraction))) := by
  refine ⟨?_, ?_, ?_⟩
  · rintro rfl
    rw [← positive?_of_whole h]
    exact Pagination.readsAs_positive? raw
  · intro hfraction x hx
    rw [← positive?_eq_of_nearestTo h (fun hboth => hfraction hboth.1) hx]
    exact Pagination.readsAs_positive? raw
  · intro hfew
    rw [← positive?_of_few_digits h hfew]
    exact Pagination.readsAs_positive? raw

/-- A numeral just below 3: on its scale, where a unit is `2^-51`, it is next to 3. -/
theorem exists_nearestTo_almost_three :
    ∃ x : Binary64, x.NearestTo (decimalValue ['2'] (List.replicate 20 '9')) ∧ x.value = 3 := by
  have hvalue : decimalValue ['2'] (List.replicate 20 '9')
      = 299999999999999999999 / 100000000000000000000 := by
    have hdigits : digitsValue (['2'] ++ List.replicate 20 '9') = 299999999999999999999 := by
      decide +kernel
    rw [decimalValue_eq_div, hdigits, List.length_replicate]
    norm_num
  have hfits : Binary64.FitsAt (decimalValue ['2'] (List.replicate 20 '9')) (-51) := by
    rw [hvalue]
    exact ⟨by norm_num, by norm_num, .inl (by norm_num)⟩
  -- `6755399441055744` units of `2^-51` are 3
  have hround : RoundsEven (decimalValue ['2'] (List.replicate 20 '9') / 2 ^ (-51 : Int))
      6755399441055744 := by
    rw [hvalue]
    refine ⟨abs_le.2 ⟨by norm_num, by norm_num⟩, fun _ => ⟨3377699720527872, rfl⟩⟩
  obtain ⟨x, hx, hthree⟩ :=
    Binary64.exists_nearestTo_of_roundsEven hfits (decimalValue_nonneg _ _) hround
  exact ⟨x, hx, hthree.trans (by norm_num)⟩

/-- A whole number past the last word, a decimal just below 3, and one between blanks. -/
theorem numerals_floor_their_nearest_past_the_words :
    IsDecimal (trim "18446744073709551617") "18446744073709551617".toList []
      ∧ IsDecimal (trim "2.99999999999999999999") ['2'] (List.replicate 20 '9')
      ∧ IsDecimal (trim " 2.70 ") ['2'] ['7', '0']
      ∧ Pagination.ReadsAs "18446744073709551617" (some 18446744073709551615)
      ∧ Pagination.ReadsAs "2.99999999999999999999" (some 3)
      ∧ Pagination.ReadsAs " 2.70 " (some 2) := by
  have hlarge : IsDecimal (trim "18446744073709551617") "18446744073709551617".toList [] := by
    decide +kernel
  have hnear : IsDecimal (trim "2.99999999999999999999") ['2'] (List.replicate 20 '9') := by
    decide +kernel
  have hfew : IsDecimal (trim " 2.70 ") ['2'] ['7', '0'] := by
    decide +kernel
  refine ⟨hlarge, hnear, hfew, ?_, ?_, ?_⟩
  · have hreads := (numerals_floor_their_nearest hlarge).1 rfl
    have hvalue : decimalValue "18446744073709551617".toList [] < 2 ^ (65 : Int) := by
      have hdigits : digitsValue "18446744073709551617".toList = 18446744073709551617 := by
        decide +kernel
      rw [decimalValue_nil, hdigits]
      norm_num
    have hfloor : floorWord (decimalValue "18446744073709551617".toList [])
        = some 18446744073709551615 := by
      rw [floorWord_decimalValue]
      decide +kernel
    rwa [if_pos (lt_limit_of_lt hvalue), hfloor] at hreads
  · obtain ⟨x, hx, hthree⟩ := exists_nearestTo_almost_three
    have hreads := (numerals_floor_their_nearest hnear).2.1 (by decide) x hx
    have hlimit : (3 : ℚ) < 2 ^ (1024 : Int) :=
      lt_of_lt_of_le (by norm_num) (zpow_le_zpow_right₀ one_le_two (by norm_num : (2 : Int) ≤ 1024))
    have hfloor : floorWord 3 = some 3 := by
      have hvalue : decimalValue ['3'] [] = 3 := by
        have hdigits : digitsValue ['3'] = 3 := by decide
        rw [decimalValue_nil, hdigits]
        norm_num
      rw [← hvalue, floorWord_decimalValue]
      decide +kernel
    rwa [hthree, if_pos hlimit, hfloor] at hreads
  · have hreads := (numerals_floor_their_nearest hfew).2.2 (by decide +kernel)
    have hfloor : floorWord (decimalValue ['2'] ['7', '0']) = some 2 := by
      rw [floorWord_decimalValue]
      decide +kernel
    rwa [hfloor] at hreads

/-- The limit lies below 3 and comes to 3, since no binary64 number lies between. -/
theorem a_limit_below_three_is_three :
    IsDecimal (trim "2.99999999999999999999") ['2'] (List.replicate 20 '9')
      ∧ floorWord (decimalValue ['2'] (List.replicate 20 '9')) = some 2
      ∧ (Pagination.ofTexts none (some "2.99999999999999999999") 20).limit = 3 := by
  refine ⟨by decide +kernel, ?_, by decide +kernel⟩
  rw [floorWord_decimalValue]
  decide +kernel

end Compendium
