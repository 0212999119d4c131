import Mathlib
import CutAndChoose.Proofs.Binary64.Power
import CutAndChoose.Proofs.Search.Outcome

/-!
# CutAndChoose.Proofs.Search.SecurityFloor

A power of two as number of parties. The attack that prepares every execution honestly is left with
guessing, and its term is exactly `2^-(k * tau)` for `2^k` parties (`term_self_two_pow`): the two
binomial coefficients cancel, and neither the power nor its reciprocal is rounded.

* `two_pow_le_worstError`: this term bounds the worst error from below.
* `accepted_above_floor`: so a search for the target `2^-bits` accepts no pair with
  `k * tau ≤ bits`.
-/

namespace CutAndChoose

open Magnitude (unitPlaces)

section Pair

variable {m tau k : ℕ}

/-- Guessing against `2^k` parties, `tau` times. -/
theorem term_self_two_pow (m : ℕ) (h : k * tau < 1024) :
    term m tau (2 ^ k) m = some (.twoPow (-(k * tau : ℕ))) := by
  have hplaces : (unitPlaces : ℤ) = 1074 := rfl
  obtain ⟨g, hg, -⟩ := @Binary64.twoPow_finite (k * tau : ℕ) (by omega) (by omega)
  obtain ⟨p, hp, -⟩ := @Binary64.twoPow_finite (-(k * tau : ℕ)) (by omega) (by omega)
  rw [term_self_eq, ← pow_mul, Binary64.ofNat_two_pow, Binary64.one_div_twoPow (by omega), hg, hp]
  rfl

theorem two_pow_le_worstError (htau : 1 ≤ tau) (hle : tau ≤ m) (h : k * tau < 1024) :
    ∃ b, worstError m tau (2 ^ k) = .finite false b ∧ (2 : ℚ) ^ (-(k * tau : ℕ) : ℤ) ≤ b.value := by
  have hplaces : (unitPlaces : ℤ) = 1074 := rfl
  obtain ⟨b, hb, hall, -⟩ := @worstError_spec m tau (2 ^ k) (Nat.two_pow_pos k).ne'
  obtain ⟨p, hp, hpv⟩ := @Binary64.twoPow_finite (-(k * tau : ℕ)) (by omega) (by omega)
  have hlast : m ∈ attacks m tau := by
    rw [mem_attacks, firstAttack]
    omega
  have hterm := hall m hlast
  rw [term_self_two_pow m h, Option.getD_some, hp, Binary64.value_finite, hpv] at hterm
  exact ⟨b, hb, hterm⟩

/-- A worst error below `2^-bits` takes more than `bits` binary digits of guessing. -/
theorem lt_of_worst_lt_target {bits : ℤ} (hbits : bits ≤ 1023) (htau : 1 ≤ tau) (hle : tau ≤ m)
    (h : (worstError m tau (2 ^ k)).lt (targetError bits) = true) :
    bits < (k * tau : ℕ) := by
  have hplaces : (unitPlaces : ℤ) = 1074 := rfl
  by_contra hge
  rw [not_lt] at hge
  obtain ⟨b, hb, hle⟩ := two_pow_le_worstError (k := k) htau hle (by omega)
  obtain ⟨t, ht, htv⟩ := @Binary64.twoPow_finite (-bits) (by omega) (by omega)
  rw [hb, targetError_eq, ht, Binary64.finite_lt_iff, htv] at h
  have hlt := (zpow_lt_zpow_iff_right₀ one_lt_two).1 (hle.trans_lt h)
  omega

end Pair

/-- With `2^k` parties every accepted pair has a guessing probability `2^-(k * tau)` strictly below
the target `2^-bits`. -/
theorem accepted_above_floor {c : Config} {k : ℕ} {bits : ℤ} (hcheck : c.check = .ok ())
    (hparties : c.parties.toNat = 2 ^ k) (hbits : bits ≤ 1023)
    (htarget : c.target = targetError bits)
    (hsum : ∀ p ∈ c.pairs, p.m.toNat + p.tau.toNat < 2 ^ 32) :
    ∃ o, search c = .ok o ∧ ∀ p ∈ o.accepted, bits < (k * p.tau.toNat : ℕ) := by
  have hc := Config.check_eq_ok_iff.1 hcheck
  refine ⟨c.outcome, search_eq_ok_iff.2 ⟨hc, hsum, rfl⟩, ?_⟩
  intro p hp
  obtain ⟨hpair, hlt⟩ := mem_accepted.1 hp
  rw [hparties, htarget] at hlt
  exact lt_of_worst_lt_target hbits (hc.one_le_tau hpair) (hc.tau_le_m hpair) hlt

/-- The default grid with the target `2^-64`, which sixteen guesses among sixteen parties just
miss. -/
def onFloor : Config := { Config.default with target := targetError 64 }

theorem accepted_above_floor_onFloor :
    onFloor.check = .ok () ∧ onFloor.parties.toNat = 2 ^ 4 ∧ onFloor.target = targetError 64 ∧
      (∀ p ∈ onFloor.pairs, p.m.toNat + p.tau.toNat < 2 ^ 32) ∧
      ∃ o, search onFloor = .ok o ∧ ∀ p ∈ o.accepted, 64 < ((4 * p.tau.toNat : ℕ) : ℤ) := by
  have hcheck : onFloor.check = .ok () := by decide +kernel
  have hsum : ∀ p ∈ onFloor.pairs, p.m.toNat + p.tau.toNat < 2 ^ 32 := by decide +kernel
  exact ⟨hcheck, rfl, rfl, hsum, accepted_above_floor hcheck rfl (by decide) rfl hsum⟩

end CutAndChoose
