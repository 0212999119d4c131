import Mathlib
import CutAndChoose.Proofs.Binary64.Power
import CutAndChoose.Proofs.Search.Outcome
import CutAndChoose.Proofs.Soundness.MoreExecutions

/-!
# CutAndChoose.Proofs.Search.UpwardClosed

The accepted pairs of a search are upward closed in `m`: where `(m, tau)` is accepted, so is every
visited pair with the same `tau` and a larger `m` (`accepted_upward`). The worst error of the larger
pair is no larger, or far below every target from `2^-1000` on.
-/

namespace CutAndChoose

theorem faint_lt {t : ℚ} (ht : (2 : ℚ) ^ (-1000 : ℤ) ≤ t) : faint < t := by
  have hunit : faint = 2 ^ (-1040 : ℤ) := Magnitude.two_pow_mul_unit_eq (by decide)
  rw [hunit]
  exact (zpow_lt_zpow_right₀ one_lt_two (by decide)).trans_le ht

/-- Below the target a pair stays below it with more executions. -/
theorem worst_lt_target_of_le {m m' tau n : ℕ} {t : Magnitude} (hn : n ≠ 0) (hle : tau ≤ m)
    (hmm' : m ≤ m') (hm : m < 2 ^ 32) (ht : (2 : ℚ) ^ (-1000 : ℤ) ≤ t.value)
    (h : (worstError m tau n).lt (.finite false t) = true) :
    (worstError m' tau n).lt (.finite false t) = true := by
  obtain ⟨b, b', hb, hb', hbb'⟩ := worstError_le_of_le hn hle hmm' hm
  rw [hb, Binary64.finite_lt_iff] at h
  rw [hb', Binary64.finite_lt_iff]
  cases hbb' with
  | inl hbound => exact hbound.trans_lt h
  | inr hfaint => exact hfaint.trans_lt (faint_lt ht)

theorem accepted_upward {c : Config} (hcheck : c.check = .ok ())
    (htarget : (2 : ℚ) ^ (-1000 : ℤ) ≤ c.target.value)
    (hsum : ∀ p ∈ c.pairs, p.m.toNat + p.tau.toNat < 2 ^ 32) :
    ∃ o, search c = .ok o ∧
      ∀ p ∈ o.accepted, ∀ m' ∈ c.mSweep.values, p.m < m' → ⟨m', p.tau⟩ ∈ o.accepted := by
  have hc := Config.check_eq_ok_iff.1 hcheck
  refine ⟨c.outcome, search_eq_ok_iff.2 ⟨hc, hsum, rfl⟩, ?_⟩
  intro p hp m' hm' hlt
  obtain ⟨hpair, hworst⟩ := mem_accepted.1 hp
  obtain ⟨t, ht, -⟩ := hc.target
  rw [ht] at htarget hworst
  have hmore := worst_lt_target_of_le hc.parties_ne_zero (hc.tau_le_m hpair)
    (UInt32.lt_iff_toNat_lt.1 hlt).le p.m.toNat_lt htarget hworst
  rw [← ht] at hmore
  exact mem_accepted.2 ⟨Config.mem_pairs.2 ⟨hm', (Config.mem_pairs.1 hpair).2⟩, hmore⟩

theorem le_target_default : (2 : ℚ) ^ (-1000 : ℤ) ≤ Config.default.target.value := by
  have htarget : Config.default.target = .twoPow (-60) := targetError_eq 60
  obtain ⟨t, ht, htv⟩ := @Binary64.twoPow_finite (-60) (by decide) (by decide)
  rw [htarget, ht, Binary64.value_finite, htv]
  exact zpow_le_zpow_right₀ one_le_two (by decide)

/-- The default search accepts sixteen repetitions from 144 executions on. -/
theorem accepted_upward_default :
    Config.default.check = .ok () ∧ (2 : ℚ) ^ (-1000 : ℤ) ≤ Config.default.target.value ∧
      (∀ p ∈ Config.default.pairs, p.m.toNat + p.tau.toNat < 2 ^ 32) ∧
      ∃ o, search Config.default = .ok o ∧ ⟨144, 16⟩ ∈ o.accepted ∧
        ∀ m' ∈ Config.default.mSweep.values, 144 < m' → ⟨m', 16⟩ ∈ o.accepted := by
  have hcheck : Config.default.check = .ok () := by decide +kernel
  have hsum : ∀ p ∈ Config.default.pairs, p.m.toNat + p.tau.toNat < 2 ^ 32 := by decide +kernel
  obtain ⟨o, ho, hupward⟩ := accepted_upward hcheck le_target_default hsum
  have haccepted : ⟨144, 16⟩ ∈ o.accepted := by
    obtain ⟨-, -, rfl⟩ := search_eq_ok_iff.1 ho
    exact mem_accepted.2 ⟨by decide +kernel, by decide +kernel⟩
  exact ⟨hcheck, le_target_default, hsum, o, ho, haccepted, hupward _ haccepted⟩

end CutAndChoose
