import Mathlib
import CutAndChoose.Proofs.Soundness.Term

/-!
# CutAndChoose.Proofs.Soundness.MoreExecutions

More preprocessing executions, with the same number of dishonest ones. In exact arithmetic the
probability that none of these is opened shrinks with every further execution
(`survival_succ`), by at least a factor `1 - 2^-32` for 32-bit parameters (`survival_shrinks`).

The computed quotients are rounded independently. Ten roundings are far less than that factor, so
the order of the exact quotients is the order of the computed ones, except below `2^-1040`, where
the absolute error of the subnormal numbers counts (`le_of_near_of_gap`).

* `worstError_le_of_le`: so the worst error does not grow with `m`, as long as it lies above
  `2^-1040`.
-/

namespace CutAndChoose

open Magnitude (unit unit_pos)

/-! ## Exact probabilities -/

/-- The probability that all opened executions are among the `rho` honest ones. -/
def survival (m tau rho : ℕ) : ℚ := rho.choose (m - tau) / m.choose (m - tau)

section Survival

variable {m tau rho : ℕ}

theorem survival_nonneg : 0 ≤ survival m tau rho := by
  unfold survival
  positivity

/-- One more execution, opened and honest. -/
theorem survival_succ (hle : tau ≤ m) :
    survival (m + 1) tau (rho + 1) = survival m tau rho * ((rho + 1) / (m + 1)) := by
  have hchoose : m.choose (m - tau) ≠ 0 := (Nat.choose_pos (Nat.sub_le _ _)).ne'
  have hchoose' : (m + 1).choose (m - tau + 1) ≠ 0 := (Nat.choose_pos (by omega)).ne'
  unfold survival
  rw [Nat.sub_add_comm hle]
  generalize m - tau = opened at hchoose hchoose' ⊢
  have hnumer : ((rho + 1) * rho.choose opened : ℚ) =
      (rho + 1).choose (opened + 1) * (opened + 1) := by
    exact_mod_cast Nat.add_one_mul_choose_eq rho opened
  have hdenom : ((m + 1) * m.choose opened : ℚ) = (m + 1).choose (opened + 1) * (opened + 1) := by
    exact_mod_cast Nat.add_one_mul_choose_eq m opened
  have hopened : (opened + 1 : ℚ) ≠ 0 := by positivity
  have hm : (m + 1 : ℚ) ≠ 0 := by positivity
  rw [div_mul_div_comm, div_eq_div_iff (Nat.cast_ne_zero.2 hchoose')
    (mul_ne_zero (Nat.cast_ne_zero.2 hchoose) hm)]
  refine mul_right_cancel₀ hopened ?_
  linear_combination (-(m.choose opened * (m + 1)) : ℚ) * hnumer +
    (rho.choose opened * (rho + 1) : ℚ) * hdenom

theorem survival_add_le (hle : tau ≤ m) (hrho : rho ≤ m) (k : ℕ) :
    survival (m + k) tau (rho + k) ≤ survival m tau rho := by
  induction k with
  | zero => exact le_rfl
  | succ k ih =>
    have hfactor : ((rho + k : ℕ) + 1 : ℚ) / ((m + k : ℕ) + 1) ≤ 1 := by
      refine div_le_one_of_le₀ ?_ (by positivity)
      exact_mod_cast Nat.succ_le_succ (Nat.add_le_add_right hrho k)
    calc survival (m + (k + 1)) tau (rho + (k + 1))
        = survival (m + k) tau (rho + k) * (((rho + k : ℕ) + 1) / ((m + k : ℕ) + 1)) :=
          survival_succ (hle.trans (Nat.le_add_right m k))
      _ ≤ survival (m + k) tau (rho + k) := mul_le_of_le_one_right survival_nonneg hfactor
      _ ≤ survival m tau rho := ih

/-- What one step gains, at the least. -/
def shrink : ℚ := 1 - 1 / 2 ^ 32

/-- With a dishonest execution among them, the first further one decides. -/
theorem survival_shrinks (hle : tau ≤ m) (hrho : rho < m) (hm : m < 2 ^ 32) (k : ℕ) :
    survival (m + (k + 1)) tau (rho + (k + 1)) ≤ survival m tau rho * shrink := by
  have hm0 : (0 : ℚ) < m + 1 := by positivity
  have hfactor : (rho + 1 : ℚ) / (m + 1) ≤ shrink := by
    have hrho' : (rho + 1 : ℚ) ≤ m := by exact_mod_cast hrho
    have hm' : (m + 1 : ℚ) ≤ 2 ^ 32 := by exact_mod_cast hm
    rw [shrink, div_le_iff₀ hm0]
    linarith
  have hsum := @survival_add_le (m + 1) tau (rho + 1) (by omega) (by omega) k
  rw [Nat.add_right_comm, Nat.add_right_comm rho] at hsum
  calc survival (m + (k + 1)) tau (rho + (k + 1)) ≤ survival (m + 1) tau (rho + 1) := hsum
    _ = survival m tau rho * ((rho + 1) / (m + 1)) := survival_succ hle
    _ ≤ survival m tau rho * shrink := mul_le_mul_of_nonneg_left hfactor survival_nonneg

end Survival

/-! ## Computed quotients -/

/-- Below this bound the order of computed quotients is not that of the exact ones. -/
def faint : ℚ := 2 ^ 34 * unit

section Gap

variable {x x' y y' : ℚ}

/-- A gap in the exact values that exceeds both rounding errors is kept. -/
theorem le_of_near_of_gap (hy : 0 ≤ y) (h : Near 5 unit x y) (h' : Near 5 unit x' y')
    (hgap : x' ≤ x * shrink) : y' ≤ y ∨ y' ≤ faint := by
  have hunit := unit_pos
  have hkeep := keep_pow_pos 5
  have hshrink : 0 ≤ shrink ∧ shrink ≤ 1 := by norm_num [shrink]
  have hten : (1 - 10 / 2 ^ 53 : ℚ) ≤ keep ^ 5 * keep ^ 5 := by
    rw [← pow_add]
    exact_mod_cast one_sub_le_keep_pow 10
  rcases le_or_gt y' y with hle | hgt
  · exact .inl hle
  · right
    have hy' : 0 ≤ y' := hy.trans hgt.le
    have hchain : y' * (1 - 10 / 2 ^ 53) ≤ y' * shrink + 2 * unit :=
      calc y' * (1 - 10 / 2 ^ 53) ≤ y' * (keep ^ 5 * keep ^ 5) :=
            mul_le_mul_of_nonneg_left hten hy'
        _ = y' * keep ^ 5 * keep ^ 5 := (mul_assoc _ _ _).symm
        _ ≤ (x' + unit) * keep ^ 5 := mul_le_mul_of_nonneg_right h'.above hkeep.le
        _ = x' * keep ^ 5 + unit * keep ^ 5 := add_mul _ _ _
        _ ≤ x * shrink * keep ^ 5 + unit :=
            add_le_add (mul_le_mul_of_nonneg_right hgap hkeep.le)
              (mul_le_of_le_one_right hunit.le (keep_pow_le_one 5))
        _ = x * keep ^ 5 * shrink + unit := by ring
        _ ≤ (y + unit) * shrink + unit :=
            add_le_add_left (mul_le_mul_of_nonneg_right h.below hshrink.1) unit
        _ ≤ (y' + unit) * shrink + unit :=
            add_le_add_left (mul_le_mul_of_nonneg_right (by linarith) hshrink.1) unit
        _ = y' * shrink + unit * shrink + unit := by ring
        _ ≤ y' * shrink + 2 * unit := by
            have := mul_le_of_le_one_right hunit.le hshrink.2
            linarith
    rw [shrink] at hchain
    rw [faint]
    linarith

end Gap

section Pair

variable {m tau n rho k : ℕ}

/-- The computed quotients of an attack, before and after `k + 1` further executions. -/
theorem ratio_add_le (hle : tau ≤ m) (hrho : rho < m) (hm : m < 2 ^ 32) (k : ℕ) :
    ∃ d d', ratio (rho.choose (m - tau)) (m.choose (m - tau)) = some (.finite false d) ∧
      ratio ((rho + (k + 1)).choose (m + (k + 1) - tau))
        ((m + (k + 1)).choose (m + (k + 1) - tau)) = some (.finite false d') ∧
      (d'.value ≤ d.value ∨ d'.value ≤ faint) := by
  have hrho' : rho + (k + 1) ≤ m + (k + 1) := by omega
  obtain ⟨d, hd, hnear⟩ := ratio_of_le (Nat.choose_pos (Nat.sub_le m tau)).ne'
    (Nat.choose_le_choose (m - tau) hrho.le)
  obtain ⟨d', hd', hnear'⟩ := ratio_of_le (Nat.choose_pos (Nat.sub_le (m + (k + 1)) tau)).ne'
    (Nat.choose_le_choose (m + (k + 1) - tau) hrho')
  exact ⟨d, d', hd, hd', le_of_near_of_gap d.value_nonneg hnear hnear'
    (survival_shrinks hle hrho hm k)⟩

/-- With `k` further executions, all honest, a term does not grow, or it is faint. -/
theorem term_add_le {p' : Magnitude} (hn : n ≠ 0) (hle : tau ≤ m) (hrho : rho ≤ m) (hm : m < 2 ^ 32)
    (hterm : term (m + k) tau n (rho + k) = some (.finite false p')) :
    ∃ p, term m tau n rho = some (.finite false p) ∧ (p'.value ≤ p.value ∨ p'.value ≤ faint) := by
  have hexponent : rho + k + tau - (m + k) = rho + tau - m := by omega
  rcases eq_or_lt_of_le hrho with rfl | hlt
  · rw [term_self_eq, ← term_self_eq rho] at hterm
    exact ⟨p', hterm, .inl le_rfl⟩
  · cases k with
    | zero => exact ⟨p', hterm, .inl le_rfl⟩
    | succ k =>
      obtain ⟨d, d', hd, hd', hdd'⟩ := ratio_add_le hle hlt hm k
      obtain ⟨g, hg, hnearest', hpd'⟩ := quotient_of_term hn hd' hterm
      rw [hexponent] at hg
      obtain ⟨p, hp, hnearest, -⟩ := term_of_finite hn hd hg
      refine ⟨p, hp, ?_⟩
      rcases hdd' with hle' | hfaint
      · -- The power is the same, so the order of the quotients decides.
        have hquot := div_le_div_of_nonneg_right hle' g.value_nonneg
        exact .inl (Binary64.value_le_of_nearest (div_nonneg d'.value_nonneg g.value_nonneg)
          hquot hnearest' hnearest)
      · exact .inr (hpd'.trans hfaint)

theorem attacks_sub {rho' : ℕ} (hle : tau ≤ m) (hrho' : rho' ∈ attacks (m + k) tau) :
    ∃ rho ∈ attacks m tau, rho' = rho + k := by
  rw [mem_attacks, firstAttack] at hrho'
  refine ⟨rho' - k, ?_, by omega⟩
  rw [mem_attacks, firstAttack]
  omega

/-- The worst error does not grow with the number of executions, or it is faint. -/
theorem worstError_le_of_le {m' : ℕ} (hn : n ≠ 0) (hle : tau ≤ m) (hmm' : m ≤ m')
    (hm : m < 2 ^ 32) :
    ∃ b b', worstError m tau n = .finite false b ∧ worstError m' tau n = .finite false b' ∧
      (b'.value ≤ b.value ∨ b'.value ≤ faint) := by
  obtain ⟨k, rfl⟩ := Nat.exists_eq_add_of_le hmm'
  obtain ⟨b, hb, hall, -⟩ := @worstError_spec m tau n hn
  obtain ⟨b', hb', -, hfrom⟩ := @worstError_spec (m + k) tau n hn
  refine ⟨b, b', hb, hb', ?_⟩
  rcases hfrom with rfl | ⟨rho', hrho', hterm⟩
  · exact .inl (Binary64.value_zero.trans_le b.value_nonneg)
  · obtain ⟨rho, hrho, rfl⟩ := attacks_sub hle hrho'
    obtain ⟨p, hp, hpb'⟩ := term_add_le hn hle (mem_attacks.1 hrho).2 hm hterm
    have hpb := hall rho hrho
    rw [hp, Option.getD_some, Binary64.value_finite] at hpb
    exact hpb'.imp_left fun h => h.trans hpb

end Pair

end CutAndChoose
