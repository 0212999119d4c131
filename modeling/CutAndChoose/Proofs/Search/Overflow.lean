import Mathlib
import CutAndChoose.Proofs.Search.Visits

/-!
# CutAndChoose.Proofs.Search.Overflow

Which 32-bit operations of a search can leave the word.

* `checkedWorstError_eq_none_iff`: the estimator aborts on a pair whose sum `m + tau` leaves the word.
* `search_eq_overflow`, `search_eq_outcome_iff`: so does the loop of the search if there is such a
  pair in the grid, and it runs through if there is none.
* `overflow_of_search`: on a config that passes its check every operation stays within the word but
  the sum `rho + tau`, and the search aborts exactly when the largest `m` and the largest `tau` sum
  up to `2^32` or more.
-/

namespace CutAndChoose

/-! ## The operations of a checked config -/

section Pair

variable {c : Config} {p : Params}

/-- The first attack of a pair is a word. -/
theorem Config.Checked.firstAttack_fits (h : c.Checked) (hp : p ∈ c.pairs) :
    ∃ opened first, checkedSub p.m p.tau = some opened ∧ checkedAdd opened 1 = some first ∧
      first.toNat = firstAttack p.m.toNat p.tau.toNat := by
  have hone : (1 : UInt32).toNat = 1 := rfl
  have htau := h.one_le_tau hp
  have hm := p.m.toNat_lt_size
  obtain ⟨opened, hopened, hvalue⟩ := checkedSub_of_le (h.tau_le_m hp)
  obtain ⟨first, hfirst, hnext⟩ := @checkedAdd_of_lt opened 1 (by omega)
  exact ⟨opened, first, hopened, hfirst, by unfold firstAttack; omega⟩

theorem checkedWorstError_eq_none_iff (h : c.Checked) (hp : p ∈ c.pairs) (n : UInt32) :
    checkedWorstError p.m p.tau n = none ↔ 2 ^ 32 ≤ p.m.toNat + p.tau.toNat := by
  have hfits := h.fits_iff hp
  rw [checkedWorstError_of_fits]
  cases hp : p.fits with
  | false =>
    rw [hp] at hfits
    simpa using hfits
  | true =>
    rw [hp] at hfits
    simpa using hfits

end Pair

/-- The loop does not get past the pair of the largest `m` and the largest `tau`. -/
theorem search_eq_overflow {c : Config} (h : c.Checked)
    (hcorner : 2 ^ 32 ≤ c.corner.m.toNat + c.corner.tau.toNat) :
    ∃ p ∈ c.pairs, 2 ^ 32 ≤ p.m.toNat + p.tau.toNat ∧
      search c = .error (.overflow ⟨p.m, p.tau⟩) := by
  rw [search_eq_visitAll, Config.check_eq_ok_iff.2 h]
  cases hloop : c.visitAll ⟨[], []⟩ c.pairs with
  | ok v =>
    have habort := (checkedWorstError_eq_none_iff h h.corner_mem c.parties).2 hcorner
    exact absurd habort (((inStep_nil c).visitAll hloop).ne_none h.corner_mem)
  | error e =>
    obtain ⟨p, hp, habort, rfl⟩ := visitAll_eq_error hloop
    exact ⟨p, hp, (checkedWorstError_eq_none_iff h hp c.parties).1 habort, rfl⟩

theorem search_eq_outcome_iff {c : Config} (h : c.Checked) :
    search c = .ok c.outcome ↔ c.corner.m.toNat + c.corner.tau.toNat < 2 ^ 32 := by
  constructor
  · intro hsearch
    refine not_le.1 fun hcorner => ?_
    obtain ⟨p, -, -, habort⟩ := search_eq_overflow h hcorner
    rw [habort] at hsearch
    cases hsearch
  · intro hcorner
    rw [search_eq_visitAll, Config.check_eq_ok_iff.2 h]
    cases hloop : c.visitAll ⟨[], []⟩ c.pairs with
    | ok v =>
      rw [((inStep_nil c).visitAll hloop).eq]
      rfl
    | error e =>
      obtain ⟨p, hp, habort, -⟩ := visitAll_eq_error hloop
      have hsum := (checkedWorstError_eq_none_iff h hp c.parties).1 habort
      exact absurd hcorner (not_lt.2 (hsum.trans (Config.sum_le_corner hp)))

theorem overflow_of_search {c : Config} (hcheck : c.check = .ok ()) :
    (∀ p ∈ c.pairs, ∃ opened first,
      checkedSub p.m p.tau = some opened ∧ checkedAdd opened 1 = some first ∧
      ∀ rho, first ≤ rho → rho ≤ p.m →
        (∃ survivors, checkedBinomial rho opened = some survivors) ∧
        (∃ all, checkedBinomial p.m opened = some all) ∧
        ∀ sum, checkedAdd rho p.tau = some sum → ∃ guesses, checkedSub sum p.m = some guesses) ∧
    (∀ p ∈ c.pairs,
      checkedWorstError p.m p.tau c.parties = none ↔ 2 ^ 32 ≤ p.m.toNat + p.tau.toNat) ∧
    (search c = .ok c.outcome ↔ c.corner.m.toNat + c.corner.tau.toNat < 2 ^ 32) ∧
    (2 ^ 32 ≤ c.corner.m.toNat + c.corner.tau.toNat →
      ∃ p ∈ c.pairs, 2 ^ 32 ≤ p.m.toNat + p.tau.toNat ∧
        search c = .error (.overflow ⟨p.m, p.tau⟩)) := by
  have h := Config.check_eq_ok_iff.1 hcheck
  refine ⟨?_, fun p hp => checkedWorstError_eq_none_iff h hp c.parties,
    search_eq_outcome_iff h, search_eq_overflow h⟩
  intro p hp
  obtain ⟨opened, first, hopened, hfirst, hvalue⟩ := h.firstAttack_fits hp
  refine ⟨opened, first, hopened, hfirst, ?_⟩
  intro rho hlow _
  refine ⟨⟨_, checkedBinomial_eq _ _⟩, ⟨_, checkedBinomial_eq _ _⟩, ?_⟩
  intro sum hsum
  have hle := UInt32.le_iff_toNat_le.1 hlow
  have htau := h.tau_le_m hp
  rw [checkedAdd_eq_some_iff] at hsum
  unfold firstAttack at hvalue
  obtain ⟨guesses, hguesses, -⟩ := @checkedSub_of_le sum p.m (by omega)
  exact ⟨guesses, hguesses⟩

/-- A pair at the top of the word: the last attack sums up to `2^32`. -/
def topOfWord : Config := ⟨2, .one, ⟨4294967294, 4294967295, 1⟩, ⟨2, 3, 1⟩⟩

/-- The check passes, and the search aborts. -/
theorem topOfWord_overflows :
    topOfWord.check = .ok () ∧ search topOfWord = .error (.overflow ⟨4294967294, 2⟩) := by
  have hcheck : topOfWord.check = .ok () := by decide +kernel
  obtain ⟨-, -, -, habort⟩ := overflow_of_search hcheck
  obtain ⟨p, hp, -, hsearch⟩ := habort (by decide +kernel)
  have hpairs : ∀ p ∈ topOfWord.pairs, p = ⟨4294967294, 2⟩ := by decide +kernel
  rw [hpairs p hp] at hsearch
  exact ⟨hcheck, hsearch⟩

end CutAndChoose
