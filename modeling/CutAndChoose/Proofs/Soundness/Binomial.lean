import Mathlib
import CutAndChoose.Soundness.Binomial

/-!
# CutAndChoose.Proofs.Soundness.Binomial

The lockstep product is the binomial coefficient: multiplying by `base + k + 1` and dividing by
`k + 1` leads from one coefficient to the next without a remainder, and the smaller of `r` and
`n - r` gives the same coefficient as `r`.

* `risingBinomial_eq_choose`, `dvd_risingBinomial_mul`: the product after each step, and that the
  division of the next one is exact.
* `binomial_eq_choose`: the coefficient.
-/

namespace CutAndChoose

theorem risingBinomial_eq_choose (base k : Nat) :
    risingBinomial base k = (base + k).choose k := by
  induction k with
  | zero => simp [risingBinomial]
  | succ k ih =>
    have h := Nat.add_one_mul_choose_eq (base + k) k
    rw [risingBinomial, ih, ← Nat.add_assoc, Nat.mul_comm, h]
    exact Nat.mul_div_cancel _ k.succ_pos

/-- No division of the loop leaves a remainder. -/
theorem dvd_risingBinomial_mul (base k : Nat) :
    k + 1 ∣ risingBinomial base k * (base + (k + 1)) := by
  rw [risingBinomial_eq_choose, ← Nat.add_assoc, Nat.mul_comm, Nat.add_one_mul_choose_eq]
  exact Nat.dvd_mul_left _ _

theorem binomial_eq_choose (n r : Nat) : binomial n r = n.choose r := by
  unfold binomial
  split
  · rename_i hlt
    exact (Nat.choose_eq_zero_of_lt hlt).symm
  · rename_i hle
    rw [Nat.not_lt] at hle
    dsimp only
    rw [risingBinomial_eq_choose]
    rcases Nat.le_total r (n - r) with h | h
    · rw [Nat.min_eq_left h, Nat.sub_add_cancel hle]
    · rw [Nat.min_eq_right h, Nat.sub_sub_self hle, Nat.add_sub_cancel' hle,
        Nat.choose_symm hle]

theorem binomial_symm {n r : Nat} (h : r ≤ n) : binomial n (n - r) = binomial n r := by
  rw [binomial_eq_choose, binomial_eq_choose, Nat.choose_symm h]

end CutAndChoose
