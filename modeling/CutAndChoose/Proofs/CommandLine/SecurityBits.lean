import Mathlib
import CutAndChoose.CommandLine.Command
import CutAndChoose.Proofs.Binary64.Power
import CutAndChoose.Proofs.Search.Check

/-!
# CutAndChoose.Proofs.CommandLine.SecurityBits

The security level of a search, in bits, and the target error that it stands for.

* `targetError_exact`, `targetError_eq_zero`, `targetError_eq_infinite`: the target is exactly
  `2^-bits` for the levels from -1023 to 1074, zero above them and infinite below.
* `securityBits_accepted`: so a search whose other options are in order is accepted exactly for
  these levels.

The least level is not that of the least positive number: the reciprocal of `2^-1024` is already too
large, and that of the numbers below it as well.
-/

namespace CutAndChoose

open Magnitude (unitPlaces)
open CommandLine (SearchOptions SearchSlots)

section Target

variable {bits : ℤ}

theorem targetError_exact (hlow : -1023 ≤ bits) (hhigh : bits ≤ 1074) :
    ∃ t, targetError bits = .finite false t ∧ t.value = 2 ^ (-bits) := by
  have hplaces : (unitPlaces : ℤ) = 1074 := rfl
  rw [targetError_eq]
  exact Binary64.twoPow_finite (by omega) (by omega)

theorem targetError_eq_zero (h : 1075 ≤ bits) : targetError bits = .zero := by
  have hplaces : (unitPlaces : ℤ) = 1074 := rfl
  rw [targetError_eq]
  exact Binary64.twoPow_eq_zero (by omega)

theorem targetError_eq_infinite (h : bits ≤ -1024) : targetError bits = .infinite false := by
  rw [targetError_eq]
  exact Binary64.twoPow_eq_infinite (by omega)

/-- The targets that a search can have are those that are exact. -/
theorem targetError_finite_pos_iff :
    ((targetError bits).isFinite = true ∧ 0 < (targetError bits).value) ↔
      -1023 ≤ bits ∧ bits ≤ 1074 := by
  constructor
  · rintro ⟨hfinite, hpos⟩
    constructor
    · by_contra hlow
      rw [targetError_eq_infinite (by omega)] at hfinite
      cases hfinite
    · by_contra hhigh
      rw [targetError_eq_zero (by omega), Binary64.value_zero] at hpos
      exact lt_irrefl 0 hpos
  · rintro ⟨hlow, hhigh⟩
    obtain ⟨t, ht, hvalue⟩ := targetError_exact hlow hhigh
    rw [ht, Binary64.value_finite, hvalue]
    exact ⟨rfl, zpow_pos two_pos _⟩

end Target

/-- The target of a security level is exact from the largest power of two to the smallest, and
infinite or zero outside. A search whose other options are in order is accepted for the exact
ones. -/
theorem securityBits_accepted :
    (∀ bits : Int32,
      (-1023 ≤ bits.toInt → bits.toInt ≤ 1074 →
        ∃ t, targetError bits.toInt = .finite false t ∧ t.value = 2 ^ (-bits.toInt)) ∧
      (1075 ≤ bits.toInt → targetError bits.toInt = .zero) ∧
      (bits.toInt ≤ -1024 → targetError bits.toInt = .infinite false)) ∧
    ∀ o : SearchOptions, o.config.ProperCounts →
      (o.config.check = .ok () ↔ -1023 ≤ o.securityBits.toInt ∧ o.securityBits.toInt ≤ 1074) := by
  refine ⟨fun bits => ⟨targetError_exact, targetError_eq_zero, targetError_eq_infinite⟩, ?_⟩
  intro o hcounts
  have htarget : o.config.target = targetError o.securityBits.toInt := rfl
  rw [Config.check_eq_ok_iff, Config.checked_iff, htarget, targetError_finite_pos_iff]
  exact and_iff_right hcounts

/-- The search without options, at another security level. -/
def atLevel (bits : Int32) : SearchOptions :=
  { SearchSlots.none.options with securityBits := bits }

theorem properCounts_atLevel (bits : Int32) : (atLevel bits).config.ProperCounts := by
  have hcheck : SearchSlots.none.options.config.check = .ok () := by decide +kernel
  have h := (Config.checked_iff.1 (Config.check_eq_ok_iff.1 hcheck)).1
  exact ⟨h.parties, h.steps, h.ranges, h.starts, h.tau_le_m⟩

/-- The last accepted and the first refused level at both ends. -/
theorem securityBits_accepted_ends :
    (∀ bits, (atLevel bits).config.ProperCounts) ∧
      (atLevel 1074).config.check = .ok () ∧ (atLevel 1075).config.check ≠ .ok () ∧
      (atLevel (-1023)).config.check = .ok () ∧ (atLevel (-1024)).config.check ≠ .ok () := by
  have haccepted := fun bits => securityBits_accepted.2 (atLevel bits) (properCounts_atLevel bits)
  refine ⟨properCounts_atLevel, ?_, ?_, ?_, ?_⟩
  · exact (haccepted 1074).2 (by decide)
  · exact fun h => absurd ((haccepted 1075).1 h) (by decide)
  · exact (haccepted (-1023)).2 (by decide)
  · exact fun h => absurd ((haccepted (-1024)).1 h) (by decide)

end CutAndChoose
