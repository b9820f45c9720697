import Mathlib.Data.Int.Log
import Mathlib.Data.Rat.Floor
import Mathlib.Tactic.FieldSimp
import Mathlib.Tactic.Linarith
import Mathlib.Tactic.Positivity
import Mathlib.Tactic.Ring
import Mathlib.Tactic.NormNum

/-! Decimal arithmetic: a result is the exact rational, kept to a number of significant digits.

    A number that has no more digits than that is kept as it is, and what is lost of any other is small against the
    number itself. The roundings to a whole number are here too. -/

namespace Schemes

/-- The nearest whole number, a tie going to the even one. -/
def roundEven (q : ℚ) : ℤ :=
  if q - ⌊q⌋ < 1 / 2 then ⌊q⌋
  else if 1 / 2 < q - ⌊q⌋ then ⌊q⌋ + 1
  else if ⌊q⌋ % 2 = 0 then ⌊q⌋ else ⌊q⌋ + 1

/-- The nearest whole number, a tie going away from zero. -/
def roundHalfUp (q : ℚ) : ℤ := if 0 ≤ q then ⌊q + 1 / 2⌋ else -⌊-q + 1 / 2⌋

/-- The whole part, towards zero. -/
def truncate (q : ℚ) : ℤ := if 0 ≤ q then ⌊q⌋ else -⌊-q⌋

/-- `q` to `p` significant digits. -/
def toDigits (p : ℕ) (q : ℚ) : ℚ :=
  let e : ℤ := p - 1 - Int.log 10 |q|
  roundEven (q * 10 ^ e) / 10 ^ e

example : toDigits 3 (20 / 3) = 6.67 := by decide +kernel

/-! ### Whole numbers -/

@[simp] theorem roundEven_intCast (n : ℤ) : roundEven n = n := by
  simp [roundEven]

theorem abs_roundEven_sub_le (q : ℚ) : |(roundEven q : ℚ) - q| ≤ 1 / 2 := by
  have hlow := Int.floor_le q
  have hhigh := Int.lt_floor_add_one q
  unfold roundEven
  split_ifs <;> push_cast <;> rw [abs_le] <;> constructor <;> linarith

theorem roundEven_nonneg {q : ℚ} (h : 0 ≤ q) : 0 ≤ roundEven q := by
  have hfloor : 0 ≤ ⌊q⌋ := Int.floor_nonneg.mpr h
  unfold roundEven
  split_ifs <;> omega

theorem abs_roundHalfUp_sub_le (q : ℚ) : |(roundHalfUp q : ℚ) - q| ≤ 1 / 2 := by
  unfold roundHalfUp
  split_ifs
  · have hlow := Int.floor_le (q + 1 / 2)
    have hhigh := Int.lt_floor_add_one (q + 1 / 2)
    rw [abs_le]
    constructor <;> linarith
  · have hlow := Int.floor_le (-q + 1 / 2)
    have hhigh := Int.lt_floor_add_one (-q + 1 / 2)
    push_cast
    rw [abs_le]
    constructor <;> linarith

theorem roundHalfUp_nonneg {q : ℚ} (h : 0 ≤ q) : 0 ≤ roundHalfUp q := by
  rw [roundHalfUp, if_pos h]
  exact Int.floor_nonneg.mpr (by linarith)

@[simp] theorem roundHalfUp_zero : roundHalfUp 0 = 0 := by
  norm_num [roundHalfUp]

theorem truncate_of_nonneg {q : ℚ} (h : 0 ≤ q) : truncate q = ⌊q⌋ := if_pos h

/-! ### Significant digits -/

@[simp] theorem toDigits_zero (p : ℕ) : toDigits p 0 = 0 := by
  simp [toDigits, roundEven]

/-- The last digit that is kept. -/
theorem zpow_unit_pos (e : ℤ) : (0 : ℚ) < 10 ^ e := zpow_pos (by norm_num) e

theorem toDigits_nonneg (p : ℕ) {q : ℚ} (h : 0 ≤ q) : 0 ≤ toDigits p q := by
  have hunit := zpow_unit_pos (p - 1 - Int.log 10 |q|)
  have hround : (0 : ℚ) ≤ roundEven (q * 10 ^ ((p : ℤ) - 1 - Int.log 10 |q|)) := by
    exact_mod_cast roundEven_nonneg (mul_nonneg h hunit.le)
  exact div_nonneg hround hunit.le

/-- A number of at most `p` digits, whatever its exponent, is kept. -/
theorem toDigits_eq {p : ℕ} {n : ℤ} (k : ℕ) (h : |n| < 10 ^ p) : toDigits p (n / 10 ^ k) = n / 10 ^ k := by
  rcases eq_or_ne n 0 with rfl | hn
  · simp
  set q : ℚ := n / 10 ^ k with hq
  have hpos : 0 < |q| := by
    rw [abs_pos, hq]
    exact div_ne_zero (by exact_mod_cast hn) (by positivity)
  have hbound : |q| < (10 : ℚ) ^ ((p : ℤ) - k) := by
    rw [hq, abs_div, abs_of_pos (by positivity : (0 : ℚ) < 10 ^ k), zpow_sub₀ (by norm_num), zpow_natCast, zpow_natCast]
    exact div_lt_div_of_pos_right (by exact_mod_cast h) (by positivity)
  have hlog : Int.log 10 |q| < (p : ℤ) - k := by
    have hle : ((10 : ℕ) : ℚ) ^ Int.log 10 |q| ≤ |q| := Int.zpow_log_le_self (by norm_num) hpos
    exact (zpow_lt_zpow_iff_right₀ (by norm_num : (1 : ℚ) < 10)).mp (lt_of_le_of_lt (by exact_mod_cast hle) hbound)
  -- so the unit that is kept divides the one `n` counts in
  obtain ⟨d, hd⟩ := Int.eq_ofNat_of_zero_le (by omega : 0 ≤ (p : ℤ) - 1 - Int.log 10 |q| - k)
  have hwhole : q * 10 ^ ((p : ℤ) - 1 - Int.log 10 |q|) = ((n * 10 ^ d : ℤ) : ℚ) := by
    have he : (p : ℤ) - 1 - Int.log 10 |q| = k + d := by omega
    rw [he, zpow_add₀ (by norm_num), zpow_natCast, zpow_natCast, hq]
    push_cast
    field_simp
  have hunit := zpow_unit_pos (p - 1 - Int.log 10 |q|)
  rw [toDigits, hwhole, roundEven_intCast, ← hwhole]
  exact mul_div_cancel_right₀ q hunit.ne'

theorem toDigits_intCast {p : ℕ} {n : ℤ} (h : |n| < 10 ^ p) : toDigits p n = n := by
  simpa using toDigits_eq 0 h

/-- What is lost is at most half a unit of the last digit, so small against the number. -/
theorem abs_toDigits_sub_le (p : ℕ) (q : ℚ) : |toDigits (p + 1) q - q| ≤ |q| / (2 * 10 ^ p) := by
  rcases eq_or_ne q 0 with rfl | hq
  · simp
  have hpos : 0 < |q| := abs_pos.mpr hq
  set e : ℤ := ((p + 1 : ℕ) : ℤ) - 1 - Int.log 10 |q| with he
  have hunit := zpow_unit_pos e
  have hkept : |toDigits (p + 1) q - q| = |(roundEven (q * 10 ^ e) : ℚ) - q * 10 ^ e| / 10 ^ e := by
    rw [← abs_of_pos hunit, ← abs_div, abs_of_pos hunit, sub_div, mul_div_cancel_right₀ q hunit.ne']
    rfl
  have hlog : (10 : ℚ) ^ Int.log 10 |q| ≤ |q| := by
    exact_mod_cast (Int.zpow_log_le_self (b := 10) (by norm_num) hpos)
  have hsplit : (10 : ℚ) ^ e * 10 ^ Int.log 10 |q| = 10 ^ p := by
    rw [← zpow_add₀ (by norm_num), ← zpow_natCast]
    congr 1
    omega
  calc |toDigits (p + 1) q - q| ≤ 1 / 2 / 10 ^ e := by
        rw [hkept]
        exact div_le_div_of_nonneg_right (abs_roundEven_sub_le _) hunit.le
    _ = 10 ^ Int.log 10 |q| / (2 * 10 ^ p) := by
        rw [← hsplit]
        field_simp
    _ ≤ |q| / (2 * 10 ^ p) := div_le_div_of_nonneg_right hlog (by positivity)

end Schemes
