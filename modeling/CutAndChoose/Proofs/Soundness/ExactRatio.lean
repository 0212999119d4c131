import Mathlib
import CutAndChoose.Proofs.Binary64.Power
import CutAndChoose.Proofs.Soundness.Ratio

/-!
# CutAndChoose.Proofs.Soundness.ExactRatio

Quotients that are a power of two. The operands `a * 2 ^ j` and `a * 2 ^ k` have the same leading
digits, so what the cut keeps of them differs by a power of two alone, on whichever side of the cut
they lie (`topBits_mul_two_pow`). Their quotient is a power of two before it is scaled, and scaling
multiplies it by further ones in the same direction.

* `scale_twoPow`, `scale_twoPow_neg`: scaling a power of two adds the exponents, also where the
  result underflows or overflows.
* `ratio_self`: the quotient of equal operands is one.
* `ratio_mul_two_pow`: so the quotient is exact over the whole range of binary64, zero below it and
  not given above it.
-/

namespace CutAndChoose

/-! ## Scaling powers of two -/

namespace Binary64

theorem exact_two_pow_iff {e : ℕ} {y : Binary64} : Exact (2 ^ e) y ↔ y = twoPow e := by
  constructor
  · rintro (⟨rfl, hlarge⟩ | ⟨b, rfl, hb⟩)
    · rw [twoPow_eq_nearest, zpow_natCast, nearest_eq_infinite hlarge]
    · rw [twoPow_eq_nearest, zpow_natCast, ← hb, nearest_value]
  · intro h
    rw [h]
    by_cases he : e < 1024
    · obtain ⟨p, hp, hpv⟩ := @twoPow_finite e (by omega) (by omega)
      rw [zpow_natCast] at hpv
      exact .inr ⟨p, hp, hpv⟩
    · rw [not_lt] at he
      exact .inl ⟨twoPow_eq_infinite (by omega), pow_le_pow_right₀ one_le_two he⟩

theorem scale_twoPow (i k : ℕ) : (twoPow i).scale k = twoPow (i + k : ℕ) := by
  have hexact := exact_scale k (exact_two_pow_iff.2 (rfl : twoPow i = twoPow i))
  rw [← pow_add] at hexact
  exact exact_two_pow_iff.1 hexact

theorem repeat_mul_twoPow {i : ℤ} (hi : i ≤ 0) (step n : ℕ) :
    Nat.repeat (· * twoPow (-step)) n (twoPow i) = twoPow (i - (step * n : ℕ)) := by
  induction n with
  | zero => simp [Nat.repeat]
  | succ n ih =>
    rw [Nat.repeat, ih, twoPow_mul (by omega) (by omega), Nat.mul_succ]
    refine congrArg twoPow ?_
    omega

theorem scale_twoPow_neg {i : ℤ} (hi : i ≤ 0) (k : ℕ) :
    (twoPow i).scale (-k) = twoPow (i - k) := by
  have hsplit := Nat.div_add_mod k maxShift
  unfold scale
  rw [Int.natAbs_neg, Int.natAbs_natCast]
  by_cases hk : k = 0
  · subst hk
    simpa [Nat.repeat] using twoPow_mul hi le_rfl
  · have hneg : -(k : ℤ) < 0 := by omega
    simp only [hneg, if_true]
    rw [repeat_mul_twoPow hi, twoPow_mul (by omega) (by omega)]
    refine congrArg twoPow ?_
    omega

end Binary64

open Binary64

/-! ## Cutting operands with the same digits -/

section Operands

variable {a : ℕ}

theorem bitLength_mul_two_pow (ha : a ≠ 0) (j : ℕ) :
    bitLength (a * 2 ^ j) = bitLength a + j := by
  have hlog := Magnitude.log2_mul_two_pow ha j
  unfold bitLength
  rw [if_neg ha, if_neg (mul_ne_zero ha (Nat.two_pow_pos j).ne'), hlog, Nat.add_right_comm]

/-- How many of the `j` low zeros of `a * 2 ^ j` the cut keeps. -/
def keptZeros (a j : ℕ) : ℕ := j - (cutBits (a * 2 ^ j) - cutBits a)

theorem cutBits_mul_two_pow (ha : a ≠ 0) (j : ℕ) :
    cutBits (a * 2 ^ j) = bitLength a + j - operandBits := by
  rw [cutBits, bitLength_mul_two_pow ha]

theorem div_cutBits_mul_two_pow (ha : a ≠ 0) (j : ℕ) :
    a * 2 ^ j / 2 ^ cutBits (a * 2 ^ j) = a / 2 ^ cutBits a * 2 ^ keptZeros a j := by
  have hcut : cutBits a = bitLength a - operandBits := rfl
  have hcut' := cutBits_mul_two_pow ha j
  by_cases h : cutBits a = 0
  · -- Only zeros of the power are cut off.
    have hsplit : keptZeros a j + cutBits (a * 2 ^ j) = j := by
      unfold keptZeros
      omega
    rw [h, pow_zero, Nat.div_one]
    nth_rewrite 1 [← hsplit]
    rw [pow_add, ← mul_assoc, Nat.mul_div_cancel _ (Nat.two_pow_pos _)]
  · -- All zeros of the power are cut off, and the digits that `a` loses.
    have hall : cutBits (a * 2 ^ j) = cutBits a + j := by omega
    have hnone : keptZeros a j = 0 := by
      unfold keptZeros
      omega
    rw [hnone, hall, pow_add, pow_zero, mul_one, Nat.mul_div_mul_right _ _ (Nat.two_pow_pos j)]

theorem topBits_mul_two_pow (ha : a ≠ 0) (j : ℕ) {t : Magnitude} (ht : topBits a = finite false t) :
    ∃ s, topBits (a * 2 ^ j) = finite false s ∧ s.value = t.value * 2 ^ keptZeros a j := by
  obtain ⟨s, hs, -⟩ := topBits_spec (a * 2 ^ j)
  refine ⟨s, hs, ?_⟩
  rw [topBits, div_cutBits_mul_two_pow ha] at hs
  exact value_ofNat_mul_two_pow (div_cutBits_pos ha).ne' ht hs

/-- The digits cancel. -/
theorem quotient_mul_two_pow (ha : a ≠ 0) (j k : ℕ) :
    topBits (a * 2 ^ j) / topBits (a * 2 ^ k) = twoPow (keptZeros a j - keptZeros a k) := by
  obtain ⟨t, ht, -, hpos, -⟩ := topBits_spec a
  have ht0 : 0 < t.value := one_pos.trans_le (hpos ha)
  obtain ⟨s, hs, hsv⟩ := topBits_mul_two_pow ha j ht
  obtain ⟨s', hs', hsv'⟩ := topBits_mul_two_pow ha k ht
  have hs0 : 0 < s'.value := hsv' ▸ mul_pos ht0 (pow_pos two_pos _)
  rw [hs, hs', finite_div s (Magnitude.value_pos_iff.1 hs0).ne', hsv, hsv',
    mul_div_mul_left _ _ ht0.ne', twoPow_eq_nearest, zpow_sub₀ two_ne_zero, zpow_natCast,
    zpow_natCast]

theorem scale_quotient_mul_two_pow (ha : a ≠ 0) (j k : ℕ) :
    (topBits (a * 2 ^ j) / topBits (a * 2 ^ k)).scale
      (cutBits (a * 2 ^ j) - cutBits (a * 2 ^ k) : ℤ) = twoPow (j - k) := by
  have hcut : cutBits a = bitLength a - operandBits := rfl
  have hcutj := cutBits_mul_two_pow ha j
  have hcutk := cutBits_mul_two_pow ha k
  have hzeros (i : ℕ) : keptZeros a i = i - (cutBits (a * 2 ^ i) - cutBits a) := rfl
  have hj := hzeros j
  have hk := hzeros k
  rw [quotient_mul_two_pow ha]
  -- The larger operand loses at least as many digits and keeps at least as many zeros.
  rcases Nat.le_total j k with h | h
  · have hexp : (cutBits (a * 2 ^ j) - cutBits (a * 2 ^ k) : ℤ) =
        -(cutBits (a * 2 ^ k) - cutBits (a * 2 ^ j) : ℕ) := by omega
    rw [hexp, scale_twoPow_neg (by omega)]
    refine congrArg twoPow ?_
    omega
  · have hexp : (cutBits (a * 2 ^ j) - cutBits (a * 2 ^ k) : ℤ) =
        (cutBits (a * 2 ^ j) - cutBits (a * 2 ^ k) : ℕ) := by omega
    have hkept : (keptZeros a j - keptZeros a k : ℤ) = (keptZeros a j - keptZeros a k : ℕ) := by
      omega
    rw [hexp, hkept, scale_twoPow]
    refine congrArg twoPow ?_
    omega

end Operands

/-! ## The quotient -/

theorem ratio_eq_twoPow {a : ℕ} (ha : a ≠ 0) (j k : ℕ) :
    ratio (a * 2 ^ j) (a * 2 ^ k) =
      if (twoPow (j - k)).isFinite then some (twoPow (j - k)) else none :=
  ratio_eq (mul_ne_zero ha (Nat.two_pow_pos k).ne') (scale_quotient_mul_two_pow ha j k)

/-- Equal operands are cut alike, and what is left of them cancels. -/
theorem ratio_self {a : ℕ} (ha : a ≠ 0) : ratio a a = some .one := by
  obtain ⟨u, hu, -⟩ := one_eq
  have h := ratio_eq_twoPow ha 0 0
  rw [pow_zero, mul_one, sub_self, twoPow_zero, hu] at h
  rw [h, hu]
  rfl

/-- A quotient that is a power of two is exact at any size of the operands. -/
theorem ratio_mul_two_pow {a : ℕ} (ha : 0 < a) (j k : ℕ) :
    (-1074 ≤ (j - k : ℤ) → (j - k : ℤ) ≤ 1023 →
      ∃ p, ratio (a * 2 ^ j) (a * 2 ^ k) = some (.finite false p) ∧
        p.value = 2 ^ (j - k : ℤ)) ∧
      ((j - k : ℤ) ≤ -1075 → ratio (a * 2 ^ j) (a * 2 ^ k) = some .zero) ∧
      (1024 ≤ (j - k : ℤ) → ratio (a * 2 ^ j) (a * 2 ^ k) = none) := by
  have hplaces : (Magnitude.unitPlaces : ℤ) = 1074 := rfl
  rw [ratio_eq_twoPow ha.ne']
  refine ⟨?_, ?_, ?_⟩
  · intro hlow hhigh
    obtain ⟨p, hp, hpv⟩ := @twoPow_finite (j - k) (by omega) (by omega)
    refine ⟨p, ?_, hpv⟩
    rw [hp]
    rfl
  · intro hlow
    rw [twoPow_eq_zero (by omega)]
    rfl
  · intro hhigh
    rw [twoPow_eq_infinite hhigh]
    rfl

/-- Operands on both sides of the cut, at both ends of the range. -/
theorem ratio_mul_two_pow_ends :
    0 < 3 ∧
      (∃ p, ratio (3 * 2 ^ 126) (3 * 2 ^ 1200) = some (.finite false p) ∧
        p.value = 2 ^ (-1074 : ℤ)) ∧
      ratio (3 * 2 ^ 125) (3 * 2 ^ 1200) = some .zero ∧
      (∃ p, ratio (3 * 2 ^ 1200) (3 * 2 ^ 177) = some (.finite false p) ∧
        p.value = 2 ^ (1023 : ℤ)) ∧
      ratio (3 * 2 ^ 1200) (3 * 2 ^ 176) = none := by
  have hpos : 0 < 3 := by omega
  obtain ⟨hleast, -, -⟩ := ratio_mul_two_pow hpos 126 1200
  obtain ⟨-, hbelow, -⟩ := ratio_mul_two_pow hpos 125 1200
  obtain ⟨hgreatest, -, -⟩ := ratio_mul_two_pow hpos 1200 177
  obtain ⟨-, -, habove⟩ := ratio_mul_two_pow hpos 1200 176
  exact ⟨hpos, hleast (by norm_num) (by norm_num), hbelow (by norm_num),
    hgreatest (by norm_num) (by norm_num), habove (by norm_num)⟩

end CutAndChoose
