import Mathlib
import CutAndChoose.Soundness.Term
import CutAndChoose.Proofs.Binary64.Nearest

/-!
# CutAndChoose.Proofs.Binary64.Power

Powers of two in binary64, and the repeated squaring that computes them.

* `twoPow_finite`, `twoPow_eq_zero`, `twoPow_eq_infinite`: a power of two is exact from `2^-1074` to
  `2^1023`, zero below and infinite above.
* `twoPow_mul`: a product of powers that are at most one is the power of the sum, also where a
  factor or the product underflows.
* `targetError_eq`: so the squaring ends on `2^-bits`, rounded once.
-/

namespace CutAndChoose

open Magnitude (unit unitPlaces)

namespace Binary64

theorem twoPow_zero : twoPow 0 = one := by
  rw [twoPow_eq_nearest, one, ofNat_eq_nearest, zpow_zero, Nat.cast_one]

/-- The tie between zero and the least positive number goes to zero, and so does all below it. -/
theorem twoPow_eq_zero {e : ℤ} (h : e < -unitPlaces) : twoPow e = zero := by
  have hplaces : (unitPlaces : ℤ) = 1074 := rfl
  rcases eq_or_lt_of_le (show e ≤ -1075 by omega) with rfl | hlt
  · decide +kernel
  · have hhalf : (2 : ℚ) ^ (-1075 : ℤ) = unit / 2 := by
      have hunit : (2 : ℚ) ^ 0 * unit = 2 ^ (-1074 : ℤ) :=
        Magnitude.two_pow_mul_unit_eq (by decide)
      rw [pow_zero, one_mul] at hunit
      rw [hunit, div_eq_mul_inv, ← zpow_sub_one₀ (two_ne_zero' ℚ)]
      rfl
    rw [twoPow_eq_nearest]
    refine nearest_eq_zero (zpow_nonneg two_pos.le _) ?_
    rw [← hhalf]
    exact zpow_lt_zpow_right₀ one_lt_two hlt

theorem twoPow_eq_infinite {e : ℤ} (h : 1024 ≤ e) : twoPow e = infinite false := by
  rw [twoPow_eq_nearest]
  refine nearest_eq_infinite ?_
  rw [← zpow_natCast]
  exact zpow_le_zpow_right₀ one_le_two (by exact_mod_cast h)

/-- Powers of at most one do not overflow. -/
theorem twoPow_finite_of_nonpos {e : ℤ} (h : e ≤ 0) : ∃ p, twoPow e = finite false p := by
  by_cases hlow : -unitPlaces ≤ e
  · obtain ⟨p, hp, -⟩ := twoPow_finite hlow (by omega)
    exact ⟨p, hp⟩
  · exact ⟨.zero, twoPow_eq_zero (not_le.1 hlow)⟩

theorem zero_mul_finite (p : Magnitude) : zero * finite false p = zero := by
  have hzero : Magnitude.zero.value = 0 := value_zero
  rw [zero, finite_mul, hzero, zero_mul, nearest_zero]
  rfl

theorem mul_comm_finite (p q : Magnitude) :
    finite false p * finite false q = finite false q * finite false p := by
  rw [finite_mul, finite_mul, mul_comm]

theorem twoPow_mul {a b : ℤ} (ha : a ≤ 0) (hb : b ≤ 0) : twoPow a * twoPow b = twoPow (a + b) := by
  obtain ⟨p, hp⟩ := twoPow_finite_of_nonpos ha
  obtain ⟨q, hq⟩ := twoPow_finite_of_nonpos hb
  by_cases hlow : -unitPlaces ≤ a ∧ -unitPlaces ≤ b
  · obtain ⟨p', hp', hpv⟩ := twoPow_finite hlow.1 (by omega)
    obtain ⟨q', hq', hqv⟩ := twoPow_finite hlow.2 (by omega)
    rw [hp', hq', finite_mul, hpv, hqv, ← zpow_add₀ two_ne_zero, ← twoPow_eq_nearest]
  · rw [not_and_or, not_le, not_le] at hlow
    -- One factor is zero, and the sum of the exponents lies below that of this factor.
    rcases hlow with hlow | hlow
    · rw [twoPow_eq_zero hlow, hq, zero_mul_finite, twoPow_eq_zero (by omega)]
    · rw [twoPow_eq_zero (show a + b < -unitPlaces by omega), hp, hq, mul_comm_finite, ← hq,
        twoPow_eq_zero hlow, zero_mul_finite]

/-- Repeated squaring of a power of two, by induction on what is left of the exponent. -/
theorem mulPow_twoPow {a b : ℤ} (ha : a ≤ 0) (hb : b ≤ 0) (k : ℕ) :
    mulPow (twoPow a) (twoPow b) k = twoPow (a + k * b) := by
  induction k using Nat.strongRecOn generalizing a b with
  | ind k ih =>
    have hacc : (if k % 2 = 1 then twoPow a * twoPow b else twoPow a) =
        twoPow (a + (k % 2 : ℕ) * b) := by
      rcases Nat.mod_two_eq_zero_or_one k with hk | hk
      · simp [hk]
      · simp [hk, twoPow_mul ha hb]
    have hbit : a + (k % 2 : ℕ) * b ≤ 0 :=
      add_nonpos ha (mul_nonpos_of_nonneg_of_nonpos (Int.natCast_nonneg _) hb)
    have hsplit : (k : ℤ) = (k % 2 : ℕ) + (k / 2 : ℕ) * 2 := by omega
    rw [mulPow, hacc]
    by_cases hk : k / 2 = 0
    · rw [if_pos hk, hsplit, hk]
      simp
    · rw [if_neg hk, twoPow_mul hb hb, ih (k / 2) (by omega) hbit (by omega)]
      congr 1
      rw [hsplit]
      push_cast
      ring

/-- The reciprocal of a power of two is the opposite power, infinite where the power is zero. -/
theorem one_div_twoPow {e : ℤ} (h : e < 1024) : one / twoPow e = twoPow (-e) := by
  have hplaces : (unitPlaces : ℤ) = 1074 := rfl
  obtain ⟨u, hu, hu1⟩ := one_eq
  by_cases hlow : -unitPlaces ≤ e
  · obtain ⟨p, hp, hpv⟩ := twoPow_finite hlow h
    have hunits : p.units ≠ 0 := by
      have hpos : 0 < p.value := hpv ▸ zpow_pos two_pos e
      exact (Magnitude.value_pos_iff.1 hpos).ne'
    rw [hu, hp, finite_div u hunits, hu1, hpv, one_div, ← zpow_neg, ← twoPow_eq_nearest]
  · rw [not_le] at hlow
    rw [twoPow_eq_zero hlow, twoPow_eq_infinite (by omega)]
    decide +kernel

theorem ofNat_two_pow (k : ℕ) : ofNat (2 ^ k) = twoPow k := by
  rw [ofNat_eq_nearest, twoPow_eq_nearest, zpow_natCast, Nat.cast_pow, Nat.cast_ofNat]

end Binary64

open Binary64

/-- The target error is `2^-bits`, rounded once, whatever the intermediate squares are. -/
theorem targetError_eq (bits : ℤ) : targetError bits = twoPow (-bits) := by
  have hpower : mulPow one (twoPow (-1)) bits.natAbs = twoPow (-bits.natAbs) := by
    rw [← twoPow_zero, mulPow_twoPow le_rfl (by decide)]
    congr 1
    ring
  unfold targetError pow
  dsimp only
  rw [hpower]
  by_cases hbits : bits < 0
  · rw [if_pos hbits, one_div_twoPow (by omega)]
    congr 1
    omega
  · rw [if_neg hbits]
    congr 1
    omega

end CutAndChoose
