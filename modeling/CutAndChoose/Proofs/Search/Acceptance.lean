import Mathlib
import CutAndChoose.Proofs.Search.Outcome

/-!
# CutAndChoose.Proofs.Search.Acceptance

The decisions of a search against exact arithmetic.

* `acceptance_near_exact`: away from a band of relative width `2^-48` around the target, a pair is
  accepted exactly when its exact soundness error lies below the target.
* `dropped_lt_target`: a term that is not representable counts as zero. For every target above
  `2^-1024` this is safe, since such a term lies below the target in exact arithmetic.
* `dropped_at_target`: at the target `2^-1024` it is not.
-/

namespace CutAndChoose

open Magnitude (unit unit_pos)

/-! ## A near value against a threshold -/

section Threshold

variable {x p t : ℚ}

/-- For targets from `2^-1000` on, the slack of a term is negligible. -/
theorem slack_le (ht : (2 : ℚ) ^ (-1000 : ℤ) ≤ t) : 2 * unit ≤ t / 2 ^ 73 := by
  have hunit : (2 : ℚ) ^ 1 * unit = 2 ^ (-1073 : ℤ) :=
    Magnitude.two_pow_mul_unit_eq (by decide)
  have hsplit : (2 : ℚ) ^ (-1073 : ℤ) = 2 ^ (-1000 : ℤ) / 2 ^ 73 := by
    rw [← zpow_natCast, ← zpow_sub₀ two_ne_zero]
    rfl
  rw [pow_one, hsplit] at hunit
  exact hunit.trans_le (div_le_div_of_nonneg_right ht (by norm_num))

theorem target_pos (ht : (2 : ℚ) ^ (-1000 : ℤ) ≤ t) : 0 < t :=
  lt_of_lt_of_le (zpow_pos two_pos _) ht

theorem le_of_near_of_le (ht : (2 : ℚ) ^ (-1000 : ℤ) ≤ t) (hx : 0 ≤ x)
    (h : Near 7 (2 * unit) x p) (hp : p ≤ t) : x ≤ t * (1 + 1 / 2 ^ 48) := by
  have hscaled : x * (1 - 7 / 2 ^ 53) ≤ t * (1 + 1 / 2 ^ 73) :=
    calc x * (1 - 7 / 2 ^ 53) ≤ x * keep ^ 7 :=
          mul_le_mul_of_nonneg_left (by exact_mod_cast one_sub_le_keep_pow 7) hx
      _ ≤ p + 2 * unit := h.below
      _ ≤ t + t / 2 ^ 73 := add_le_add hp (slack_le ht)
      _ = t * (1 + 1 / 2 ^ 73) := by ring
  have hroom : (1 + 1 / 2 ^ 73 : ℚ) ≤ (1 + 1 / 2 ^ 48) * (1 - 7 / 2 ^ 53) := by norm_num
  refine le_of_mul_le_mul_right ?_ (by norm_num : (0 : ℚ) < 1 - 7 / 2 ^ 53)
  calc x * (1 - 7 / 2 ^ 53) ≤ t * (1 + 1 / 2 ^ 73) := hscaled
    _ ≤ t * ((1 + 1 / 2 ^ 48) * (1 - 7 / 2 ^ 53)) :=
        mul_le_mul_of_nonneg_left hroom (target_pos ht).le
    _ = t * (1 + 1 / 2 ^ 48) * (1 - 7 / 2 ^ 53) := (mul_assoc _ _ _).symm

theorem le_of_near_of_ge (ht : (2 : ℚ) ^ (-1000 : ℤ) ≤ t) (h : Near 7 (2 * unit) x p)
    (hp : t ≤ p) : t * (1 - 1 / 2 ^ 48) ≤ x := by
  have hpos := target_pos ht
  have hscaled : t * (1 - 7 / 2 ^ 53) ≤ x + t / 2 ^ 73 :=
    calc t * (1 - 7 / 2 ^ 53) ≤ t * keep ^ 7 :=
          mul_le_mul_of_nonneg_left (by exact_mod_cast one_sub_le_keep_pow 7) hpos.le
      _ ≤ p * keep ^ 7 := mul_le_mul_of_nonneg_right hp (keep_pow_pos 7).le
      _ ≤ x + 2 * unit := h.above
      _ ≤ x + t / 2 ^ 73 := add_le_add_right (slack_le ht) x
  have hroom : (1 - 1 / 2 ^ 48 : ℚ) ≤ 1 - 7 / 2 ^ 53 - 1 / 2 ^ 73 := by norm_num
  calc t * (1 - 1 / 2 ^ 48) ≤ t * (1 - 7 / 2 ^ 53 - 1 / 2 ^ 73) :=
        mul_le_mul_of_nonneg_left hroom hpos.le
    _ = t * (1 - 7 / 2 ^ 53) - t / 2 ^ 73 := by ring
    _ ≤ x := sub_le_iff_le_add.2 hscaled

end Threshold

/-! ## The decision on a pair -/

section Pair

variable {m tau n rho : ℕ} {t : Magnitude} {E : ℚ}

theorem dropped_le (hn : n ≠ 0) (hrho : rho ≤ m) (hnone : term m tau n rho = none) :
    exactTerm m tau n rho ≤ 1 / Binary64.overflow := by
  have hpow := (term_eq_none_iff hn hrho).1 hnone
  exact (exactTerm_le hrho).trans (one_div_le_one_div_of_le Binary64.overflow_pos hpow)

theorem exactError_le_of_worst_lt (hn : n ≠ 0) (ht : (2 : ℚ) ^ (-1000 : ℤ) ≤ t.value)
    (hE : IsExactError m tau n E) (hlt : (worstError m tau n).lt (.finite false t) = true) :
    E ≤ t.value * (1 + 1 / 2 ^ 48) := by
  obtain ⟨b, hb, hall, -⟩ := @worstError_spec m tau n hn
  rw [hb, Binary64.finite_lt_iff] at hlt
  apply hE.le_of_forall
  intro rho hrho
  have hle := (mem_attacks.1 hrho).2
  cases hterm : term m tau n rho with
  | none =>
    -- A term that is not representable lies below every target this large.
    have habove : (2 : ℚ) ^ (-1024 : ℤ) < t.value :=
      (zpow_lt_zpow_right₀ one_lt_two (by decide)).trans_le ht
    calc exactTerm m tau n rho ≤ 1 / Binary64.overflow := dropped_le hn hle hterm
      _ ≤ t.value := (Binary64.one_div_overflow_lt_value habove).le
      _ ≤ t.value * (1 + 1 / 2 ^ 48) :=
          le_mul_of_one_le_right t.value_nonneg (by norm_num)
  | some x =>
    obtain ⟨p, rfl, hnear⟩ := near_of_term_eq_some hn hle hterm
    have hpb := hall rho hrho
    rw [hterm] at hpb
    exact le_of_near_of_le ht exactTerm_nonneg hnear (hpb.trans hlt.le)

theorem exactError_ge_of_not_worst_lt (hn : n ≠ 0) (ht : (2 : ℚ) ^ (-1000 : ℤ) ≤ t.value)
    (hE : IsExactError m tau n E) (hge : (worstError m tau n).lt (.finite false t) = false) :
    t.value * (1 - 1 / 2 ^ 48) ≤ E := by
  obtain ⟨b, hb, -, hfrom⟩ := @worstError_spec m tau n hn
  have htb : t.value ≤ b.value := by
    rw [← not_lt, ← Binary64.finite_lt_iff, ← hb, hge]
    decide
  rcases hfrom with rfl | ⟨rho, hrho, hterm⟩
  · have hpos := target_pos ht
    rw [← Binary64.value_zero] at hpos
    exact absurd htb (not_le.2 hpos)
  · obtain ⟨p, hp, hnear⟩ := near_of_term_eq_some hn (mem_attacks.1 hrho).2 hterm
    cases hp
    exact (le_of_near_of_ge ht hnear htb).trans (hE.term_le hrho)

/-- The target one accepts every pair: each attack has to guess at least once. -/
theorem worstError_lt_one (hn : 2 ≤ n) (htau : 1 ≤ tau) (hle : tau ≤ m) :
    (worstError m tau n).lt .one = true := by
  obtain ⟨t, ht, ht1⟩ := Binary64.one_eq
  obtain ⟨rho, hrho, hE⟩ := exists_exactError n htau hle
  rw [ht]
  by_contra hge
  rw [Bool.not_eq_true] at hge
  have hlarge := exactError_ge_of_not_worst_lt (by omega)
    (by rw [ht1]; exact zpow_le_one_of_nonpos₀ one_le_two (by decide)) hE hge
  have hsmall : exactTerm m tau n rho ≤ 1 / 2 := by
    have hpow : 2 ≤ n ^ (rho + tau - m) := by
      rw [mem_attacks, firstAttack] at hrho
      exact hn.trans (Nat.le_self_pow (by omega) n)
    refine (exactTerm_le (mem_attacks.1 hrho).2).trans ?_
    exact one_div_le_one_div_of_le two_pos (by exact_mod_cast hpow)
  rw [ht1] at hlarge
  norm_num at hlarge
  linarith

end Pair

/-! ## The decisions of a search -/

theorem acceptance_near_exact {c : Config} (hcheck : c.check = .ok ())
    (htarget : (2 : ℚ) ^ (-1000 : ℤ) ≤ c.target.value)
    (hsum : ∀ p ∈ c.pairs, p.m.toNat + p.tau.toNat < 2 ^ 32) :
    ∃ o, search c = .ok o ∧ o.evaluations.map (·.params) = c.pairs ∧
      ∀ e ∈ o.evaluations, ∃ E,
        IsExactError e.params.m.toNat e.params.tau.toNat c.parties.toNat E ∧
        (e.accepted = true → E ≤ c.target.value * (1 + 1 / 2 ^ 48)) ∧
        (e.accepted = false → c.target.value * (1 - 1 / 2 ^ 48) ≤ E) := by
  have hc := Config.check_eq_ok_iff.1 hcheck
  refine ⟨c.outcome, search_eq_ok_iff.2 ⟨hc, hsum, rfl⟩, map_params_evaluations, ?_⟩
  intro e he
  obtain ⟨p, hp, rfl⟩ := mem_evaluations.1 he
  obtain ⟨rho, -, hE⟩ := exists_exactError c.parties.toNat (hc.one_le_tau hp) (hc.tau_le_m hp)
  obtain ⟨t, ht, -⟩ := hc.target
  rw [ht] at htarget ⊢
  refine ⟨_, hE, ?_, ?_⟩
  · intro haccepted
    rw [Config.evaluate, ht] at haccepted
    exact exactError_le_of_worst_lt hc.parties_ne_zero htarget hE haccepted
  · intro hrejected
    rw [Config.evaluate, ht] at hrejected
    exact exactError_ge_of_not_worst_lt hc.parties_ne_zero htarget hE hrejected

/-- The default search: its target is `2^-60`. -/
theorem acceptance_near_exact_default :
    Config.default.check = .ok () ∧ (2 : ℚ) ^ (-1000 : ℤ) ≤ Config.default.target.value ∧
      (∀ p ∈ Config.default.pairs, p.m.toNat + p.tau.toNat < 2 ^ 32) ∧
      ∃ o, search Config.default = .ok o ∧
        o.evaluations.map (·.params) = Config.default.pairs ∧
        ∀ e ∈ o.evaluations, ∃ E, IsExactError e.params.m.toNat e.params.tau.toNat 16 E ∧
          (e.accepted = true → E ≤ Config.default.target.value * (1 + 1 / 2 ^ 48)) ∧
          (e.accepted = false → Config.default.target.value * (1 - 1 / 2 ^ 48) ≤ E) := by
  have hcheck : Config.default.check = .ok () := by decide +kernel
  have hsum : ∀ p ∈ Config.default.pairs, p.m.toNat + p.tau.toNat < 2 ^ 32 := by decide +kernel
  have htarget : (2 : ℚ) ^ (-1000 : ℤ) ≤ Config.default.target.value := by
    obtain ⟨hr, hb, htarget⟩ :
        ∃ hr hb, Config.default.target = .finite false (.scaled 1 1014 hr hb) :=
      ⟨by decide, @Magnitude.scaled_lt_limit 1 1014 (by decide) (by decide), by decide +kernel⟩
    rw [htarget, Binary64.value_finite, Magnitude.value_scaled, Nat.cast_one, one_mul]
    exact zpow_le_zpow_right₀ one_le_two (by decide)
  exact ⟨hcheck, htarget, hsum, acceptance_near_exact hcheck htarget hsum⟩

theorem dropped_lt_target {c : Config} {o : Outcome} {p : Params} {rho : ℕ}
    (hsearch : search c = .ok o) (htarget : (2 : ℚ) ^ (-1024 : ℤ) < c.target.value)
    (hp : p ∈ o.accepted) (hrho : rho ∈ attacks p.m.toNat p.tau.toNat)
    (hnone : term p.m.toNat p.tau.toNat c.parties.toNat rho = none) :
    exactTerm p.m.toNat p.tau.toNat c.parties.toNat rho < c.target.value := by
  obtain ⟨hc, -, rfl⟩ := search_eq_ok_iff.1 hsearch
  obtain ⟨t, ht, -⟩ := hc.target
  rw [ht] at htarget ⊢
  exact (dropped_le hc.parties_ne_zero (mem_attacks.1 hrho).2 hnone).trans_lt
    (Binary64.one_div_overflow_lt_value htarget)

/-- Every execution is used: what is left to guess has probability below `2^-1055`. -/
def allUsed : Config := ⟨4294967295, .one, ⟨33, 34, 1⟩, ⟨33, 34, 1⟩⟩

theorem dropped_lt_target_allUsed :
    ∃ o, ∃ p ∈ o.accepted, ∃ rho ∈ attacks p.m.toNat p.tau.toNat, search allUsed = .ok o ∧
      (2 : ℚ) ^ (-1024 : ℤ) < allUsed.target.value ∧
      term p.m.toNat p.tau.toNat allUsed.parties.toNat rho = none ∧
      exactTerm p.m.toNat p.tau.toNat allUsed.parties.toNat rho < allUsed.target.value := by
  have hsearch : search allUsed = .ok allUsed.outcome :=
    search_eq_ok_iff.2 ⟨Config.check_eq_ok_iff.1 (by decide +kernel), by decide +kernel, rfl⟩
  have htarget : (2 : ℚ) ^ (-1024 : ℤ) < allUsed.target.value := by
    rw [allUsed, Binary64.value_one]
    exact zpow_lt_one_of_neg₀ one_lt_two (by decide)
  have haccepted : ⟨33, 33⟩ ∈ allUsed.outcome.accepted := by
    refine mem_accepted.2 ⟨by decide +kernel, ?_⟩
    simp only [allUsed]
    exact worstError_lt_one (by decide) (by decide) (by decide)
  refine ⟨_, _, haccepted, 33, by decide, hsearch, htarget, by decide +kernel, ?_⟩
  exact dropped_lt_target hsearch htarget haccepted (by decide) (by decide +kernel)

/-- The target `2^-1024`, and enough executions to bring every other attack below it. -/
def atThreshold : Config :=
  ⟨65536, .ofBits 0x0004000000000000, ⟨8388608, 8388609, 1⟩, ⟨64, 65, 1⟩⟩

/-- The bound on the target is sharp: a term that is not representable can reach `2^-1024`. -/
theorem dropped_at_target :
    ∃ o, search atThreshold = .ok o ∧ ⟨8388608, 64⟩ ∈ o.accepted ∧
      8388608 ∈ attacks 8388608 64 ∧ term 8388608 64 65536 8388608 = none ∧
      ¬exactTerm 8388608 64 65536 8388608 < atThreshold.target.value := by
  have hsearch : search atThreshold = .ok atThreshold.outcome :=
    search_eq_ok_iff.2 ⟨Config.check_eq_ok_iff.1 (by decide +kernel), by decide +kernel, rfl⟩
  have haccepted : ⟨8388608, 64⟩ ∈ atThreshold.outcome.accepted :=
    mem_accepted.2 ⟨by decide +kernel, by decide +kernel⟩
  have htarget : atThreshold.target.value = 2 ^ (-1024 : ℤ) := by
    obtain ⟨hr, hb, htarget⟩ :
        ∃ hr hb, atThreshold.target = .finite false (.scaled (2 ^ 50) 0 hr hb) :=
      ⟨by decide, @Magnitude.scaled_lt_limit (2 ^ 50) 0 (by decide) (by decide), by decide +kernel⟩
    rw [htarget, Binary64.value_finite, Magnitude.value_scaled, Nat.cast_pow, Nat.cast_ofNat,
      ← zpow_natCast (2 : ℚ) 50, ← zpow_add₀ two_ne_zero]
    congr 1
  have hexact : exactTerm 8388608 64 65536 8388608 = 2 ^ (-1024 : ℤ) := by
    have hparties : ((65536 : ℕ) : ℚ) = 2 ^ 16 := by norm_num
    have hexponent : (-1024 : ℤ) = -((16 * 64 : ℕ) : ℤ) := by decide
    rw [exactTerm_self, hparties, hexponent, zpow_neg, zpow_natCast, pow_mul, one_div]
  refine ⟨_, hsearch, haccepted, by decide, by decide +kernel, ?_⟩
  rw [hexact, htarget]
  exact lt_irrefl _

end CutAndChoose
