import Mathlib
import CutAndChoose.Search.Outcome
import CutAndChoose.Proofs.Search.Config
import CutAndChoose.Proofs.Soundness.Term

/-!
# CutAndChoose.Proofs.Search.Outcome

When a search gives an outcome, and what is in it.

* `search_eq_ok_iff`: the config passes its check and all sums `m + tau` stay within 32 bits.
* `mem_evaluations`, `mem_accepted`: the evaluations and the accepted pairs of an outcome.
-/

namespace CutAndChoose

namespace Config.Checked

variable {c : Config} {p : Params}

/-- Of the conditions on a pair only the one on the sum is left after the check. -/
theorem fits_iff (h : c.Checked) (hp : p ∈ c.pairs) :
    p.fits = true ↔ p.m.toNat + p.tau.toNat < 2 ^ 32 := by
  have htau := h.one_le_tau hp
  have hle := h.tau_le_m hp
  have hm := p.m.toNat_lt
  have hsize : UInt32.size = 2 ^ 32 := rfl
  rw [Params.fits, decide_eq_true_iff, PairFits, firstAttack, hsize]
  omega

theorem find_fits_eq_none_iff (h : c.Checked) :
    c.pairs.find? (!·.fits) = none ↔ ∀ p ∈ c.pairs, p.m.toNat + p.tau.toNat < 2 ^ 32 := by
  rw [List.find?_eq_none]
  constructor
  · intro hall p hp
    have hfits := hall p hp
    rw [Bool.not_eq_true', Bool.not_eq_false] at hfits
    exact (h.fits_iff hp).1 hfits
  · intro hall p hp
    rw [(h.fits_iff hp).2 (hall p hp)]
    decide

end Config.Checked

theorem search_of_checked {c : Config} (h : c.Checked) :
    search c =
      match c.pairs.find? (!·.fits) with
      | some p => .error (.overflow ⟨p.m, p.tau⟩)
      | none => .ok c.outcome := by
  have hcheck := Config.check_eq_ok_iff.2 h
  cases hfind : c.pairs.find? (!·.fits) with
  | some p => simp only [search, hcheck, hfind]
  | none => simp only [search, hcheck, hfind]

theorem search_eq_ok_iff {c : Config} {o : Outcome} :
    search c = .ok o ↔
      c.Checked ∧ (∀ p ∈ c.pairs, p.m.toNat + p.tau.toNat < 2 ^ 32) ∧ o = c.outcome := by
  constructor
  · intro h
    have hcheck : c.Checked := by
      rw [← Config.check_eq_ok_iff]
      cases hc : c.check with
      | ok u => rfl
      | error f => rw [search, hc] at h; cases h
    rw [search_of_checked hcheck] at h
    cases hfind : c.pairs.find? (!·.fits) with
    | some p => rw [hfind] at h; cases h
    | none =>
      rw [hfind] at h
      cases h
      exact ⟨hcheck, hcheck.find_fits_eq_none_iff.1 hfind, rfl⟩
  · rintro ⟨hcheck, hsum, rfl⟩
    rw [search_of_checked hcheck, hcheck.find_fits_eq_none_iff.2 hsum]

/-! ## The parts of an outcome -/

variable {c : Config} {e : Evaluation} {p : Params}

theorem mem_evaluations : e ∈ c.outcome.evaluations ↔ ∃ p ∈ c.pairs, c.evaluate p = e :=
  List.mem_map

theorem map_params_evaluations : c.outcome.evaluations.map (·.params) = c.pairs := by
  unfold Config.outcome
  rw [List.map_map]
  exact List.map_id c.pairs

theorem mem_accepted :
    p ∈ c.outcome.accepted ↔ p ∈ c.pairs ∧
      (worstError p.m.toNat p.tau.toNat c.parties.toNat).lt c.target = true := by
  unfold Config.outcome
  simp only [List.mem_map, List.mem_filter]
  constructor
  · rintro ⟨e, ⟨⟨q, hq, rfl⟩, haccepted⟩, rfl⟩
    exact ⟨hq, haccepted⟩
  · rintro ⟨hp, hlt⟩
    exact ⟨c.evaluate p, ⟨⟨p, hp, rfl⟩, hlt⟩, rfl⟩

end CutAndChoose
