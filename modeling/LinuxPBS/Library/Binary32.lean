import LinuxPBS.Library.CxxText
import Mathlib.Tactic.Positivity

/-!
# Products that are cut off

A program that multiplies a `float` and converts the product to an integer first rounds
the product to a `float` and then cuts off its fraction.  Just below an integer this
loses a whole unit, unless the product is so close that the rounding lifts it.

`le_toFloat_iff` says how close: by at most `slack n`, half the distance between `n` and the
next smaller `float`.  Only numbers below 2^23 are considered, where the fraction of a
`float` has a bit left.
-/

namespace LinuxPBS.CxxText

/-! ## Rounding to the even integer -/

/-- An even integer is reached from a half below it. -/
theorem even_le_roundHalfEven_iff {n : ℤ} (heven : Even n) (value : ℚ) :
    n ≤ roundHalfEven value ↔ (n : ℚ) - 1 / 2 ≤ value := by
  unfold roundHalfEven
  split_ifs with hhalf
  · have hvalue : value = ⌊value⌋ + 1 / 2 := by rw [← hhalf, Int.floor_add_fract]
    obtain ⟨k, rfl⟩ := heven
    have hdouble : k + k ≤ 2 * ⌊(value + 1 / 2) / 2⌋ ↔ k ≤ ⌊(value + 1 / 2) / 2⌋ := by omega
    rw [hdouble, Int.le_floor]
    push_cast
    constructor <;> intro h <;> linarith
  · rw [Int.le_floor]
    constructor <;> intro h <;> linarith

/-- A fraction in hundredths that is no half, rounded. -/
theorem roundHalfEven_hundredths {quotient remainder : ℕ} (hlt : remainder < 100)
    (hhalf : remainder ≠ 50) :
    roundHalfEven ((100 * quotient + remainder : ℕ) / 100 : ℚ) =
      if remainder < 50 then (quotient : ℤ) else quotient + 1 := by
  have hvalue : (((100 * quotient + remainder : ℕ) : ℚ) / 100) = quotient + remainder / 100 := by
    push_cast
    ring
  rw [hvalue]
  apply roundHalfEven_eq
  split_ifs with hless
  · have hless' : (remainder : ℚ) < 50 := by exact_mod_cast hless
    have hnonneg : (0 : ℚ) ≤ remainder := by positivity
    rw [Int.cast_natCast, add_sub_cancel_left, abs_lt]
    constructor <;> linarith
  · have hmore : (50 : ℚ) < remainder := by exact_mod_cast (by omega : 50 < remainder)
    have hlt' : (remainder : ℚ) < 100 := by exact_mod_cast hlt
    rw [Int.cast_add, Int.cast_natCast, Int.cast_one, abs_lt]
    constructor <;> linarith

/-! ## The floats of a binade -/

section Binade

variable {value : ℚ} {e : ℤ}

theorem log_eq (hlow : 2 ^ e ≤ value) (hhigh : value < 2 ^ (e + 1)) : Int.log 2 |value| = e := by
  have hpos : 0 < value := lt_of_lt_of_le (zpow_pos (by norm_num) e) hlow
  rw [abs_of_pos hpos]
  have hle : e ≤ Int.log 2 value :=
    (Int.zpow_le_iff_le_log (by norm_num) hpos).mp (by exact_mod_cast hlow)
  have hlt : Int.log 2 value < e + 1 :=
    (Int.lt_zpow_iff_log_lt (by norm_num) hpos).mp (by exact_mod_cast hhigh)
  omega

/-- In a binade the floats are the multiples of one unit. -/
theorem toFloat_of_binade (hlow : 2 ^ e ≤ value) (hhigh : value < 2 ^ (e + 1)) :
    toFloat value = roundHalfEven (value / 2 ^ (e - 23)) * 2 ^ (e - 23) := by
  unfold toFloat
  rw [log_eq hlow hhigh]

/-- An even multiple of the unit is reached from half a unit below it. -/
theorem even_le_toFloat_iff (hlow : 2 ^ e ≤ value) (hhigh : value < 2 ^ (e + 1)) {n : ℤ}
    (heven : Even n) :
    (n : ℚ) * 2 ^ (e - 23) ≤ toFloat value ↔ (n : ℚ) * 2 ^ (e - 23) - 2 ^ (e - 24) ≤ value := by
  have hulp : (0 : ℚ) < 2 ^ (e - 23) := zpow_pos (by norm_num) _
  have hhalf : (2 : ℚ) ^ (e - 24) = 1 / 2 * 2 ^ (e - 23) := by
    rw [show e - 23 = e - 24 + 1 by ring, zpow_add_one₀ (by norm_num)]
    ring
  rw [toFloat_of_binade hlow hhigh, mul_le_mul_iff_left₀ hulp, Int.cast_le,
    even_le_roundHalfEven_iff heven, le_div_iff₀ hulp, hhalf, sub_mul]

/-- So is an integer, where the unit is no more than a half. -/
theorem natCast_le_toFloat_iff (hlow : 2 ^ e ≤ value) (hhigh : value < 2 ^ (e + 1)) (he : e ≤ 22)
    (n : ℕ) : (n : ℚ) ≤ toFloat value ↔ n - 2 ^ (e - 24) ≤ value := by
  obtain ⟨d, hd⟩ : ∃ d : ℕ, 23 - e = (d + 1 : ℕ) := ⟨(22 - e).toNat, by omega⟩
  have heven : Even ((n : ℤ) * 2 ^ (d + 1)) := ⟨n * 2 ^ d, by ring⟩
  have hn : (((n : ℤ) * 2 ^ (d + 1) : ℤ) : ℚ) * 2 ^ (e - 23) = n := by
    have hunit : (2 : ℚ) ^ (e - 23) = (2 ^ (d + 1))⁻¹ := by
      rw [← zpow_natCast, ← hd, ← zpow_neg, neg_sub]
    push_cast
    rw [hunit, mul_assoc, mul_inv_cancel₀ (by positivity), mul_one]
  have hiff := even_le_toFloat_iff hlow hhigh heven
  rwa [hn] at hiff

/-- Above an integer the rounding stays there. -/
theorem natCast_le_toFloat {n : ℕ} (hn : 0 < n) (hle : (n : ℚ) ≤ value) (hlt : value < 2 ^ 23) :
    (n : ℚ) ≤ toFloat value := by
  have hpos : 0 < value := lt_of_lt_of_le (by exact_mod_cast hn) hle
  have hlow : (2 : ℚ) ^ Int.log 2 value ≤ value := by
    exact_mod_cast Int.zpow_log_le_self (b := 2) (by norm_num) hpos
  have hhigh : value < (2 : ℚ) ^ (Int.log 2 value + 1) := by
    exact_mod_cast Int.lt_zpow_succ_log_self (b := 2) (by norm_num) value
  have hlog : Int.log 2 value < 23 :=
    (Int.lt_zpow_iff_log_lt (by norm_num) hpos).mp (by exact_mod_cast hlt)
  have hhalf : (0 : ℚ) < 2 ^ (Int.log 2 value - 24) := zpow_pos (by norm_num) _
  exact (natCast_le_toFloat_iff hlow hhigh (by omega) n).mpr (by linarith)

end Binade

/-! ## Cutting off -/

/-- Half the distance between an integer and the next smaller `float`. -/
def slack (n : ℕ) : ℚ :=
  if n = 2 ^ Nat.log 2 n then 2 ^ ((Nat.log 2 n : ℤ) - 25) else 2 ^ ((Nat.log 2 n : ℤ) - 24)

theorem slack_pos (n : ℕ) : 0 < slack n := by
  unfold slack
  split <;> exact zpow_pos (by norm_num) _

/-- Below a power of two the unit is that of the smaller binade. -/
theorem pow_le_toFloat_iff {n : ℕ} {value : ℚ} {e : ℤ} (hpos : 0 < value)
    (hn : (n : ℚ) = 2 ^ e) (hlt : value < n) (he : e ≤ 22) :
    (n : ℚ) ≤ toFloat value ↔ n - 2 ^ (e - 25) ≤ value := by
  have hpow (d : ℤ) : (2 : ℚ) ^ (e - d) = 2 ^ (-d) * n := by
    rw [hn, ← zpow_add₀ (by norm_num), neg_add_eq_sub]
  rcases lt_or_ge value (2 ^ (e - 1)) with hfar | hclose
  · -- less than half the power: out of reach
    have herror := (abs_le.mp (abs_sub_toFloat_le hpos hfar)).1
    rw [sub_sub] at herror
    rw [hpow] at hfar herror ⊢
    norm_num at hfar herror ⊢
    constructor <;> intro <;> linarith
  · have hiff := natCast_le_toFloat_iff hclose (by rwa [sub_add_cancel, ← hn]) (by omega) n
    rwa [sub_sub] at hiff

/-- A product next to an integer is rounded up to it if it is close enough. -/
theorem le_toFloat_iff {n : ℕ} {value : ℚ} (hpos : 0 < n) (hn : n < 2 ^ 23)
    (hnear : |value - n| < 5 / 8) : (n : ℚ) ≤ toFloat value ↔ n - slack n ≤ value := by
  obtain ⟨hbelow, habove⟩ := abs_lt.mp hnear
  have hlt : (n : ℚ) + 1 ≤ 2 ^ 23 := by exact_mod_cast hn
  have hone : (1 : ℚ) ≤ n := by exact_mod_cast hpos
  have hvalue : 0 < value := by linarith
  rcases le_or_gt (n : ℚ) value with hle | hgt
  · have hslack := slack_pos n
    have hfloat := natCast_le_toFloat hpos hle (by linarith)
    constructor <;> intro <;> linarith
  have hlow : 2 ^ Nat.log 2 n ≤ n := Nat.pow_log_le_self 2 hpos.ne'
  have hhigh : n < 2 ^ (Nat.log 2 n + 1) := Nat.lt_pow_succ_log_self (by norm_num) n
  have hlog : Nat.log 2 n ≤ 22 := by
    have : Nat.log 2 n < 23 := Nat.log_lt_of_lt_pow hpos.ne' hn
    omega
  unfold slack
  split_ifs with hpower
  · have hn' : (n : ℚ) = 2 ^ (Nat.log 2 n : ℤ) := by exact_mod_cast hpower
    exact pow_le_toFloat_iff hvalue hn' hgt (by omega)
  · have hlow' : (2 : ℚ) ^ (Nat.log 2 n : ℤ) ≤ value := by
      have : (2 : ℚ) ^ Nat.log 2 n + 1 ≤ n := by exact_mod_cast (by omega : 2 ^ Nat.log 2 n + 1 ≤ n)
      rw [zpow_natCast]
      linarith
    have hhigh' : value < (2 : ℚ) ^ ((Nat.log 2 n : ℤ) + 1) :=
      hgt.trans (by exact_mod_cast hhigh)
    exact natCast_le_toFloat_iff hlow' hhigh' (by omega) n

/-- Nor is it rounded up to the next integer. -/
theorem toFloat_lt_add_one {n : ℕ} {value : ℚ} (hpos : 0 < value) (hn : n < 2 ^ 23)
    (hnear : value - n < 5 / 8) : toFloat value < n + 1 := by
  have hlt : (n : ℚ) + 1 ≤ 2 ^ 23 := by exact_mod_cast hn
  have hvalue : value < 2 ^ (23 : ℤ) := by
    norm_num at hlt ⊢
    linarith
  have herror := (abs_le.mp (abs_sub_toFloat_le hpos hvalue)).1
  norm_num at herror
  linarith

end LinuxPBS.CxxText
