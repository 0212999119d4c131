import Mathlib
import CutAndChoose.Proofs.Search.Config

/-!
# CutAndChoose.Proofs.Search.Check

The check of a config as a decision. It compares only the largest visited `tau` with the smallest
`m`, and that decides the condition on all visited values (`checked_iff`), also where the stop of
the one range lies above the start of the other.

* `ProperCounts`: what a search asks of its numbers, each visited `tau` with each visited `m`.
* `HasFault`: what a refusal says of the config. Every refusal is true (`hasFault_of_check`), and a
  config with a fault is refused (`HasFault.not_checked`), though perhaps for an earlier one.
* `check_verdict`: the check accepts exactly the proper configs, and otherwise names a fault.
-/

namespace CutAndChoose

namespace Sweep

/-- What the faults of a range say of it. -/
inductive HasFault (s : Sweep) (label : String) : Fault → Prop where
  | zeroStep : s.step = 0 → s.HasFault label (.zeroStep label)
  | noValues : (∀ v, ¬s.Visits v) → s.HasFault label (.noValues label s)

theorem hasFault_of_check {s : Sweep} {label : String} {f : Fault}
    (h : s.check label = .error f) : s.HasFault label f := by
  unfold check at h
  split at h
  · rename_i hstep
    cases h
    exact .zeroStep hstep
  · split at h
    · cases h
    · rename_i hbounds
      cases h
      exact .noValues fun v hv => hbounds (UInt32.lt_of_le_of_lt hv.1 hv.2.1)

theorem HasFault.not_proper {s : Sweep} {label : String} {f : Fault} (h : s.HasFault label f) :
    ¬(s.step ≠ 0 ∧ s.start < s.stop) := by
  rintro ⟨hstep, hbounds⟩
  cases h with
  | zeroStep hzero => exact hstep hzero
  | noValues hnone => exact hnone s.start (start_visited hbounds)

end Sweep

namespace Config

/-- What a search asks of the numbers in a config, the target apart. The last condition is one on
all values that the two ranges visit. -/
structure ProperCounts (c : Config) : Prop where
  parties : 2 ≤ c.parties
  steps : 0 < c.mSweep.step ∧ 0 < c.tauSweep.step
  ranges : c.mSweep.start < c.mSweep.stop ∧ c.tauSweep.start < c.tauSweep.stop
  starts : 1 ≤ c.mSweep.start ∧ 1 ≤ c.tauSweep.start
  tau_le_m : ∀ tau m, c.tauSweep.Visits tau → c.mSweep.Visits m → tau ≤ m

/-- What the faults of a config say of it. -/
inductive HasFault (c : Config) : Fault → Prop where
  | fewParties : c.parties < 2 → c.HasFault (.fewParties c.parties)
  | badTarget : ¬(c.target.isFinite = true ∧ 0 < c.target.value) →
      c.HasFault (.badTarget c.target)
  | mSweep {f : Sweep.Fault} : c.mSweep.HasFault "M" f → c.HasFault (.sweep f)
  | tauSweep {f : Sweep.Fault} : c.tauSweep.HasFault "tau" f → c.HasFault (.sweep f)
  | zeroStart : c.mSweep.start = 0 ∨ c.tauSweep.start = 0 → c.HasFault .zeroStart
  | tauAboveM {tau m : UInt32} : c.tauSweep.Visits tau → c.mSweep.Visits m → m < tau →
      c.HasFault (.tauAboveM tau m)

section Check

variable {c : Config}

theorem exists_finite_pos_iff {t : Binary64} :
    (∃ a, t = .finite false a ∧ 0 < a.value) ↔ t.isFinite = true ∧ 0 < t.value := by
  constructor
  · rintro ⟨a, rfl, ha⟩
    exact ⟨rfl, ha⟩
  · rintro ⟨hfinite, hpos⟩
    cases t with
    | nan => cases hfinite
    | infinite negative => cases hfinite
    | finite negative a =>
      cases negative with
      | false => exact ⟨a, rfl, hpos⟩
      | true =>
        have hneg : (Binary64.finite true a).value = -a.value := rfl
        rw [hneg, neg_pos] at hpos
        exact absurd a.value_nonneg (not_le.2 hpos)

/-- The largest `tau` and the smallest `m` are visited themselves, so comparing these two is
comparing all. -/
theorem checked_iff :
    c.Checked ↔ c.ProperCounts ∧ c.target.isFinite = true ∧ 0 < c.target.value := by
  rw [← exists_finite_pos_iff]
  constructor
  · intro h
    refine ⟨⟨?_, ?_, ?_, ?_, ?_⟩, h.target⟩
    · exact UInt32.le_iff_toNat_le.2 h.parties
    · exact ⟨UInt32.pos_iff_ne_zero.2 h.mSweep.1, UInt32.pos_iff_ne_zero.2 h.tauSweep.1⟩
    · exact ⟨h.mSweep.2, h.tauSweep.2⟩
    · exact ⟨UInt32.le_iff_toNat_le.2 h.starts.1, UInt32.le_iff_toNat_le.2 h.starts.2⟩
    · intro tau m htau hm
      have hpair : ⟨m, tau⟩ ∈ c.pairs :=
        mem_pairs.2 ⟨Sweep.mem_values_iff_visits.2 hm, Sweep.mem_values_iff_visits.2 htau⟩
      exact UInt32.le_iff_toNat_le.2 (h.tau_le_m hpair)
  · rintro ⟨h, htarget⟩
    refine ⟨UInt32.le_iff_toNat_le.1 h.parties, htarget, ?_, ?_, ?_, ?_⟩
    · exact ⟨UInt32.pos_iff_ne_zero.1 h.steps.1, h.ranges.1⟩
    · exact ⟨UInt32.pos_iff_ne_zero.1 h.steps.2, h.ranges.2⟩
    · exact ⟨UInt32.le_iff_toNat_le.1 h.starts.1, UInt32.le_iff_toNat_le.1 h.starts.2⟩
    · have hlargest := Sweep.lastOrStart_visited h.ranges.2
      have hsmallest := Sweep.start_visited h.ranges.1
      exact UInt32.le_iff_toNat_le.1 (h.tau_le_m _ _ hlargest hsmallest)

theorem HasFault.not_checked {f : Fault} (h : c.HasFault f) : ¬c.Checked := by
  intro hchecked
  obtain ⟨hcounts, htarget⟩ := checked_iff.1 hchecked
  cases h with
  | fewParties hparties => exact absurd hcounts.parties (UInt32.not_le.2 hparties)
  | badTarget hbad => exact hbad htarget
  | mSweep hm => exact hm.not_proper hchecked.mSweep
  | tauSweep htau => exact htau.not_proper hchecked.tauSweep
  | zeroStart hzero =>
    obtain ⟨hm, htau⟩ := hcounts.starts
    rcases hzero with hzero | hzero
    · rw [hzero] at hm
      exact absurd hm (by decide)
    · rw [hzero] at htau
      exact absurd htau (by decide)
  | tauAboveM htau hm hlt => exact absurd (hcounts.tau_le_m _ _ htau hm) (UInt32.not_le.2 hlt)

/-- The conditions are checked one after the other, so behind a refusal the earlier ones hold. -/
theorem hasFault_of_check {f : Fault} (h : c.check = .error f) : c.HasFault f := by
  unfold check at h
  simp only [throw_bind, refuse_eq_error_iff, bind_eq_error_iff, checkSweep, mapError_eq_error_iff,
    mapError_eq_ok_iff, pure_ne_error, Sweep.check_eq_ok_iff, exists_const] at h
  rcases h with ⟨hparties, rfl⟩ | ⟨-, ⟨htarget, rfl⟩ | ⟨-, ⟨g, hm, rfl⟩ | ⟨hm, h⟩⟩⟩
  · exact .fewParties hparties
  · rw [Bool.not_eq_true', ← Bool.not_eq_true, target_accepted_iff,
      exists_finite_pos_iff] at htarget
    exact .badTarget htarget
  · exact .mSweep (Sweep.hasFault_of_check hm)
  rcases h with ⟨g, htau, rfl⟩ | ⟨htau, ⟨hstart, rfl⟩ | ⟨-, ⟨hlast, rfl⟩ | ⟨-, h⟩⟩⟩
  · exact .tauSweep (Sweep.hasFault_of_check htau)
  · exact .zeroStart hstart
  · exact .tauAboveM (Sweep.lastOrStart_visited htau.2) (Sweep.start_visited hm.2) hlast
  · exact h.elim

end Check

/-- The check accepts a config exactly if its numbers are proper and its target is finite and
positive. Otherwise it refuses the config as invalid input, for a fault that the config has, and it
refuses every config that has one. -/
theorem check_verdict (c : Config) :
    (c.check = .ok () ↔ c.ProperCounts ∧ c.target.isFinite = true ∧ 0 < c.target.value) ∧
      (∀ f, c.check = .error f → c.HasFault f ∧ f.failure.exitCode = 2) ∧
      ∀ f, c.HasFault f → c.check ≠ .ok () := by
  refine ⟨check_eq_ok_iff.trans checked_iff, ?_, ?_⟩
  · intro f hf
    exact ⟨hasFault_of_check hf, rfl⟩
  · intro f hf hcheck
    exact hf.not_checked (check_eq_ok_iff.1 hcheck)

/-- The range of `tau` stops above the least `m`, but its last value is that `m`. -/
example : (⟨16, .one, ⟨16, 32, 8⟩, ⟨8, 20, 8⟩⟩ : Config).check = .ok () := by decide +kernel

end Config

end CutAndChoose
