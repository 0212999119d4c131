import Mathlib
import CutAndChoose.Decimal.Basic
import CutAndChoose.Proofs.Binary64.Nearest

/-!
# CutAndChoose.Proofs.Decimal.Value

A decimal as a rational number. Reading a decimal is rounding that number
(`magnitude?_eq_some_iff`, `toBinary64_eq_nearest`): the bounds behind which no power of ten is
formed cut off only what rounds to zero or overflows. So two spellings of one number are read alike
(`magnitude?_congr`).
-/

namespace CutAndChoose

open Magnitude (unit unit_pos)

namespace Binary64

/-- A quotient of units gives the magnitude to which the number it stands for is rounded. -/
theorem ofQuotient?_eq_some_iff_nearest {num den : ℕ} (hd : 0 < den) {v : ℚ}
    (hv : num * unit = v * den) {a : Magnitude} :
    Magnitude.ofQuotient? num den = some a ↔ nearest v = finite false a := by
  rw [Magnitude.ofQuotient?_eq_some_iff, ← round_eq_nearest hd hv, round_eq_finite_iff]

end Binary64

open Binary64

namespace Decimal

/-- The number that a decimal stands for. -/
def value (d : Decimal) : ℚ := d.digits * 10 ^ d.exponent

theorem value_nonneg (d : Decimal) : 0 ≤ d.value :=
  mul_nonneg (Nat.cast_nonneg _) (zpow_nonneg (by norm_num) _)

/-- A negligible decimal lies far below half a unit. -/
theorem value_lt_of_negligible {digits k : ℕ} (h : Negligible digits k) :
    (digits : ℚ) * 10 ^ (-k : ℤ) < unit / 2 := by
  unfold Negligible at h
  have hdigits : (digits : ℚ) < 2 ^ (digits.log2 + 1) := by exact_mod_cast Nat.lt_log2_self
  have hten : (8 : ℚ) ^ k ≤ 10 ^ k := pow_le_pow_left₀ (by norm_num) (by norm_num) k
  have height : (2 : ℚ) ^ (digits.log2 + 1 + 1075) ≤ 8 ^ k := by
    have heq : (8 : ℚ) ^ k = 2 ^ (3 * k) := by rw [pow_mul]; norm_num
    rw [heq]
    exact pow_le_pow_right₀ one_le_two (by omega)
  have hunit : unit / 2 = 1 / 2 ^ 1075 := by
    rw [unit, pow_succ _ 1074, one_div, mul_inv, div_eq_mul_inv]
  rw [hunit, zpow_neg, zpow_natCast, ← div_eq_mul_inv,
    div_lt_div_iff₀ (by positivity) (by positivity), one_mul]
  calc (digits : ℚ) * 2 ^ 1075 < 2 ^ (digits.log2 + 1) * 2 ^ 1075 :=
        mul_lt_mul_of_pos_right hdigits (by positivity)
    _ = 2 ^ (digits.log2 + 1 + 1075) := (pow_add _ _ _).symm
    _ ≤ 8 ^ k := height
    _ ≤ 10 ^ k := hten

/-- Reading a decimal is rounding its value. -/
theorem magnitude?_eq_some_iff {d : Decimal} {a : Magnitude} :
    d.magnitude? = some a ↔ nearest d.value = finite false a := by
  have hone := Magnitude.one_mul_unit
  unfold magnitude?
  split
  · rename_i hzero
    rw [value, hzero, Nat.cast_zero, zero_mul, nearest_zero, Option.some.injEq, zero,
      Binary64.finite.injEq]
    simp
  · rename_i hzero
    have hdigits : (1 : ℚ) ≤ d.digits := by exact_mod_cast Nat.one_le_iff_ne_zero.2 hzero
    split
    · rename_i hexp
      obtain ⟨e, he⟩ := Int.eq_ofNat_of_zero_le hexp
      split
      · rename_i hlarge
        have hvalue : (2 : ℚ) ^ 1024 ≤ d.value := by
          rw [value, he, zpow_natCast]
          calc (2 : ℚ) ^ 1024 ≤ 2 ^ (3 * e) := pow_le_pow_right₀ one_le_two (by omega)
            _ = 8 ^ e := by rw [pow_mul]; norm_num
            _ ≤ 10 ^ e := pow_le_pow_left₀ (by norm_num) (by norm_num) e
            _ ≤ d.digits * 10 ^ e := le_mul_of_one_le_left (by positivity) hdigits
        simp [nearest_eq_infinite hvalue]
      · refine ofQuotient?_eq_some_iff_nearest one_pos ?_
        rw [value, he, Int.toNat_natCast, zpow_natCast]
        push_cast
        rw [mul_assoc, hone]
    · rename_i hexp
      obtain ⟨k, hk⟩ : ∃ k : ℕ, d.exponent = -k := ⟨(-d.exponent).toNat, by omega⟩
      have hkn : (-d.exponent).toNat = k := by omega
      simp only [hkn]
      split
      · rename_i hneg
        have hvalue : d.value < unit / 2 := by
          rw [value, hk]
          exact value_lt_of_negligible hneg
        rw [nearest_eq_zero d.value_nonneg hvalue, Option.some.injEq, zero,
          Binary64.finite.injEq]
        simp
      · refine ofQuotient?_eq_some_iff_nearest (by positivity) ?_
        rw [value, hk, zpow_neg, zpow_natCast]
        push_cast
        rw [mul_assoc, hone, mul_one]
        exact (inv_mul_cancel_right₀ (by positivity) _).symm

theorem toBinary64_eq_nearest (d : Decimal) : d.toBinary64 false = nearest d.value := by
  unfold toBinary64
  cases hread : d.magnitude? with
  | some a => exact (magnitude?_eq_some_iff.1 hread).symm
  | none =>
    rcases nearest_cases d.value with ⟨a, ha⟩ | ⟨hinf, -⟩
    · rw [magnitude?_eq_some_iff.2 ha] at hread
      cases hread
    · exact hinf.symm

theorem magnitude?_congr {d d' : Decimal} (h : d.value = d'.value) :
    d.magnitude? = d'.magnitude? := by
  ext a
  rw [magnitude?_eq_some_iff, magnitude?_eq_some_iff, h]

end Decimal

end CutAndChoose
