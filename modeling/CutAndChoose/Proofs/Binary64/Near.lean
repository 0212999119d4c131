import Mathlib
import CutAndChoose.Proofs.Binary64.Nearest

/-!
# CutAndChoose.Proofs.Binary64.Near

Error of a chain of operations. `Near k slack x y` says that `y` is `x` after at most `k`
roundings, each off by a relative `2^-53`, up to an absolute `slack` for what was rounded below the
least normal number. It composes:

* `Near.trans`: the counts and the slacks add up.
* `Near.mul`, `Near.div`: a product or quotient of near numbers is near that of the numbers.
* `Near.abs_sub_le`: up to five roundings make an error of at most a relative `2^-50`.
* `near_nearest`, `near_nearest_normal`: one rounding.
* `nearest_between`: one rounding of a number between two powers of two stays between them.
-/

namespace CutAndChoose

open Magnitude (unit unit_pos)

/-- What one rounding keeps of a number at least. -/
def keep : ℚ := 1 - 1 / 2 ^ 53

theorem keep_pos : 0 < keep := by norm_num [keep]

theorem keep_le_one : keep ≤ 1 := by norm_num [keep]

theorem keep_pow_pos (k : ℕ) : 0 < keep ^ k := pow_pos keep_pos k

theorem keep_pow_le_one (k : ℕ) : keep ^ k ≤ 1 := pow_le_one₀ keep_pos.le keep_le_one

theorem one_sub_le_keep_pow (k : ℕ) : 1 - k / 2 ^ 53 ≤ keep ^ k := by
  have h := one_add_mul_le_pow (a := -(1 / 2 ^ 53 : ℚ)) (by norm_num) k
  have hkeep : 1 + -(1 / 2 ^ 53 : ℚ) = keep := by rw [keep, sub_eq_add_neg]
  rw [hkeep] at h
  linarith

/-- `y` is `x` after at most `k` roundings, up to `slack`. -/
structure Near (k : ℕ) (slack x y : ℚ) : Prop where
  below : x * keep ^ k ≤ y + slack
  above : y * keep ^ k ≤ x + slack

namespace Near

variable {k l : ℕ} {s t x y z c d : ℚ}

theorem refl (x : ℚ) : Near 0 0 x x := ⟨by simp, by simp⟩

theorem symm (h : Near k s x y) : Near k s y x := ⟨h.above, h.below⟩

theorem trans_below (hs : 0 ≤ s) (h : Near k s x y) (h' : Near l t y z) :
    x * keep ^ (k + l) ≤ z + (s + t) := by
  calc x * keep ^ (k + l) = x * keep ^ k * keep ^ l := by rw [pow_add, mul_assoc]
    _ ≤ (y + s) * keep ^ l := mul_le_mul_of_nonneg_right h.below (keep_pow_pos l).le
    _ = y * keep ^ l + s * keep ^ l := add_mul _ _ _
    _ ≤ z + t + s := add_le_add h'.below (mul_le_of_le_one_right hs (keep_pow_le_one l))
    _ = z + (s + t) := by ring

theorem trans (hs : 0 ≤ s) (ht : 0 ≤ t) (h : Near k s x y) (h' : Near l t y z) :
    Near (k + l) (s + t) x z := by
  refine ⟨trans_below hs h h', ?_⟩
  rw [add_comm k, add_comm s]
  exact trans_below ht h'.symm h.symm

theorem weaken (hx : 0 ≤ x) (hy : 0 ≤ y) (hk : k ≤ l) (hs : s ≤ t) (h : Near k s x y) :
    Near l t x y := by
  have hpow : keep ^ l ≤ keep ^ k := pow_le_pow_of_le_one keep_pos.le keep_le_one hk
  constructor
  · exact (mul_le_mul_of_nonneg_left hpow hx).trans (h.below.trans (by linarith))
  · exact (mul_le_mul_of_nonneg_left hpow hy).trans (h.above.trans (by linarith))

theorem mul_right (hc : 0 ≤ c) (h : Near k s x y) : Near k (s * c) (x * c) (y * c) := by
  constructor
  · have := mul_le_mul_of_nonneg_right h.below hc
    linarith
  · have := mul_le_mul_of_nonneg_right h.above hc
    linarith

/-- Without slack a product of near numbers is near the product. -/
theorem mul (hy : 0 ≤ y) (hc : 0 ≤ c) (h : Near k 0 x y) (h' : Near l 0 c d) :
    Near (k + l) 0 (x * c) (y * d) := by
  have hleft := h.mul_right hc
  have hright := h'.mul_right hy
  rw [zero_mul] at hleft hright
  rw [mul_comm c, mul_comm d] at hright
  simpa using hleft.trans le_rfl le_rfl hright

theorem div_below (hs : 0 ≤ s) (hy : 0 ≤ y) (hc : 1 ≤ c) (hd : 1 ≤ d) (h : Near k s x y)
    (h' : Near l 0 c d) : x / c * keep ^ (k + l) ≤ y / d + s := by
  have hc0 : 0 < c := by linarith
  have hd0 : 0 < d := by linarith
  have hquot : keep ^ l / c ≤ 1 / d := by
    rw [div_le_div_iff₀ hc0 hd0, one_mul, mul_comm]
    simpa using h'.above
  calc x / c * keep ^ (k + l) = x * keep ^ k * (keep ^ l / c) := by rw [pow_add]; ring
    _ ≤ (y + s) * (keep ^ l / c) :=
        mul_le_mul_of_nonneg_right h.below (div_nonneg (keep_pow_pos l).le hc0.le)
    _ ≤ (y + s) * (1 / d) := mul_le_mul_of_nonneg_left hquot (by linarith)
    _ = y / d + s / d := by ring
    _ ≤ y / d + s := by
        have := div_le_self hs hd
        linarith

/-- Dividing by numbers from `1` on does not enlarge the slack. -/
theorem div (hs : 0 ≤ s) (hx : 0 ≤ x) (hy : 0 ≤ y) (hc : 1 ≤ c) (hd : 1 ≤ d)
    (h : Near k s x y) (h' : Near l 0 c d) : Near (k + l) s (x / c) (y / d) :=
  ⟨div_below hs hy hc hd h h', div_below hs hx hd hc h.symm h'.symm⟩

theorem eq_zero (hy : 0 ≤ y) (h : Near k 0 0 y) : y = 0 := by
  have habove := h.above
  rw [add_zero] at habove
  exact le_antisymm (nonpos_of_mul_nonpos_left habove (keep_pow_pos k)) hy

/-- An absolute error is slack alone. -/
theorem of_abs_sub_le (h : |y - x| ≤ s) : Near 0 s x y := by
  have := abs_le.1 h
  constructor <;> rw [pow_zero, mul_one] <;> linarith

theorem of_relative (hx : 0 ≤ x) (h : |y - x| ≤ x / 2 ^ 53) : Near 1 0 x y := by
  have hbound := abs_le.1 h
  have hkeep := keep_pos
  constructor
  · rw [pow_one, keep]
    linarith
  · rw [pow_one, add_zero]
    calc y * keep ≤ (x + x / 2 ^ 53) * keep :=
          mul_le_mul_of_nonneg_right (by linarith) hkeep.le
      _ ≤ x := by
          rw [keep]
          linarith

/-- A few roundings as an error bound. -/
theorem abs_sub_le (hx : 0 ≤ x) (hs : 0 ≤ s) (hk : k ≤ 5) (h : Near k s x y) :
    |y - x| ≤ x / 2 ^ 50 + 2 * s := by
  have hkeep : 1 - 5 / 2 ^ 53 ≤ keep ^ k := by
    have hcast : (k : ℚ) ≤ 5 := by exact_mod_cast hk
    have := one_sub_le_keep_pow k
    linarith
  rw [abs_le]
  constructor
  · have hbelow := (mul_le_mul_of_nonneg_left hkeep hx).trans h.below
    linarith
  · rcases le_total y 0 with hy | hy
    · linarith
    · have habove := (mul_le_mul_of_nonneg_left hkeep hy).trans h.above
      linarith

end Near

/-! ## One rounding -/

namespace Binary64

theorem near_nearest {v : ℚ} (hv : 0 ≤ v) {a : Magnitude} (h : nearest v = finite false a) :
    Near 1 (unit / 2) v a.value := by
  have hunit : 0 ≤ unit / 2 := by linarith [unit_pos]
  rcases le_max_iff.1 (nearest_error hv h) with hrel | habs
  · exact (Near.of_relative hv hrel).weaken hv a.value_nonneg le_rfl hunit
  · exact (Near.of_abs_sub_le habs).weaken hv a.value_nonneg (by decide) le_rfl

/-- From the least normal number `2^-1022` on a rounding needs no slack. -/
theorem near_nearest_normal {v : ℚ} (hv : 2 ^ (-1022 : ℤ) ≤ v) {a : Magnitude}
    (h : nearest v = finite false a) : Near 1 0 v a.value := by
  have hnormal : 2 ^ 52 * unit ≤ v := (Magnitude.two_pow_mul_unit_eq (by decide)).trans_le hv
  have hpos : 0 ≤ v := (mul_nonneg (by positivity) unit_pos.le).trans hnormal
  refine Near.of_relative hpos ((nearest_error hpos h).trans (max_le le_rfl ?_))
  linarith

/-- Between powers of two in the range of normal numbers a rounding needs no slack and stays
between them. -/
theorem nearest_between {v : ℚ} {low high : ℤ} (hlow : -1022 ≤ low) (hhigh : high < 1024)
    (hv : 2 ^ low ≤ v) (hv' : v ≤ 2 ^ high) :
    ∃ a, nearest v = finite false a ∧ 2 ^ low ≤ a.value ∧ a.value ≤ 2 ^ high ∧
      Near 1 0 v a.value := by
  have hplaces : Magnitude.unitPlaces = 1074 := rfl
  have hle : low ≤ high := (zpow_le_zpow_iff_right₀ one_lt_two).1 (hv.trans hv')
  obtain ⟨p, -, hp⟩ := @twoPow_finite low (by omega) (by omega)
  obtain ⟨q, -, hq⟩ := @twoPow_finite high (by omega) hhigh
  have hnormal : (2 : ℚ) ^ (-1022 : ℤ) ≤ v := (zpow_le_zpow_right₀ one_le_two hlow).trans hv
  rw [← hp] at hv ⊢
  rw [← hq] at hv' ⊢
  obtain ⟨a, ha, haq⟩ := nearest_le (p.value_nonneg.trans hv) hv'
  exact ⟨a, ha, le_of_nearest hv ha, haq, near_nearest_normal hnormal ha⟩

theorem near_ofNat {n : ℕ} (hn : n ≠ 0) {a : Magnitude} (h : ofNat n = finite false a) :
    Near 1 0 n a.value ∧ 1 ≤ a.value := by
  have hone : (1 : ℚ) ≤ n := by exact_mod_cast Nat.pos_of_ne_zero hn
  have hnormal : (2 : ℚ) ^ (-1022 : ℤ) ≤ n :=
    (zpow_le_one_of_nonpos₀ one_le_two (by decide)).trans hone
  rw [ofNat_eq_nearest] at h
  exact ⟨near_nearest_normal hnormal h, one_le_of_nearest hone h⟩

end Binary64

end CutAndChoose
