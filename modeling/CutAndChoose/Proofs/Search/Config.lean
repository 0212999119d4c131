import Mathlib
import CutAndChoose.Search.Config
import CutAndChoose.Proofs.Except
import CutAndChoose.Proofs.Binary64.Nearest
import CutAndChoose.Proofs.Search.Sweep

/-!
# CutAndChoose.Proofs.Search.Config

What the check of a config guarantees.

* `check_eq_ok_iff`: the check passes exactly on the configs that are `Checked`.
* `Checked.one_le_tau`, `Checked.tau_le_m`: every pair of the grid has `1 ≤ tau ≤ m`. The check only
  compares the largest `tau` with the smallest `m`; the order of the visited values does the rest.
* `Checked.corner_mem`: the pair with the largest `m` and the largest `tau` is in the grid.
* `pairs_sorted`, `pairs_nodup`: the grid goes through its pairs by `m`, then by `tau`, and visits
  none twice.
-/

namespace CutAndChoose

namespace Config

/-- A config the check lets pass. -/
structure Checked (c : Config) : Prop where
  parties : 2 ≤ c.parties.toNat
  target : ∃ t, c.target = .finite false t ∧ 0 < t.value
  mSweep : c.mSweep.step ≠ 0 ∧ c.mSweep.start < c.mSweep.stop
  tauSweep : c.tauSweep.step ≠ 0 ∧ c.tauSweep.start < c.tauSweep.stop
  starts : 1 ≤ c.mSweep.start.toNat ∧ 1 ≤ c.tauSweep.start.toNat
  tauLast : c.tauSweep.lastOrStart.toNat ≤ c.mSweep.start.toNat

/-! ## The check, condition by condition -/

theorem checkSweep_eq_ok_iff {s : Sweep} {label : String} {u : Unit} :
    checkSweep s label = .ok u ↔ s.step ≠ 0 ∧ s.start < s.stop := by
  rw [checkSweep, mapError_eq_ok_iff]
  exact Sweep.check_eq_ok_iff

theorem target_accepted_iff {t : Binary64} :
    (t.isFinite && Binary64.zero.lt t) = true ↔ ∃ a, t = .finite false a ∧ 0 < a.value := by
  cases t with
  | nan => simp [Binary64.isFinite]
  | infinite negative => simp [Binary64.isFinite]
  | finite negative a =>
    cases negative with
    | false =>
      have hzero : Binary64.zero.lt (.finite false a) = true ↔ 0 < a.value := by
        rw [Binary64.zero, Binary64.finite_lt_iff, ← Binary64.value_zero]
        rfl
      simp [Binary64.isFinite, hzero]
    | true => simp [Binary64.isFinite, Binary64.lt, Binary64.position, Binary64.zero]

theorem check_eq_ok_iff {c : Config} : c.check = .ok () ↔ c.Checked := by
  have hlarge : c.tauSweep.last?.getD c.tauSweep.start = c.tauSweep.lastOrStart := rfl
  unfold check
  simp only [throw_bind, refuse_eq_ok_iff, bind_eq_ok_iff, checkSweep_eq_ok_iff, pure_eq_ok_iff,
    Bool.not_eq_true', Bool.not_eq_false, target_accepted_iff, hlarge, UInt32.not_lt,
    UInt32.le_iff_toNat_le, UInt32.reduceToNat, exists_const, and_true, not_or]
  have hstart : ∀ v : UInt32, ¬v = 0 ↔ 1 ≤ v.toNat := fun v => by
    rw [← UInt32.toNat_inj, Nat.one_le_iff_ne_zero]
    rfl
  rw [hstart, hstart]
  constructor
  · rintro ⟨hparties, htarget, hm, htau, hstarts, hlast⟩
    exact ⟨hparties, htarget, hm, htau, hstarts, hlast⟩
  · rintro ⟨hparties, htarget, hm, htau, hstarts, hlast⟩
    exact ⟨hparties, htarget, hm, htau, hstarts, hlast⟩

/-! ## The grid -/

theorem mem_pairs {c : Config} {p : Params} :
    p ∈ c.pairs ↔ p.m ∈ c.mSweep.values ∧ p.tau ∈ c.tauSweep.values := by
  unfold pairs
  simp only [List.mem_flatMap, List.mem_map]
  constructor
  · rintro ⟨m, hm, tau, htau, rfl⟩
    exact ⟨hm, htau⟩
  · rintro ⟨hm, htau⟩
    exact ⟨p.m, hm, p.tau, htau, rfl⟩

theorem grid_of_check {c : Config} (hcheck : c.check = .ok ()) : c.grid = .ok c.pairs := by
  unfold grid
  rw [hcheck]
  rfl

/-- Visited earlier: smaller `m`, or equal `m` and smaller `tau`. -/
def Earlier (p q : Params) : Prop := p.m < q.m ∨ (p.m = q.m ∧ p.tau < q.tau)

theorem Earlier.ne {p q : Params} (h : Earlier p q) : p ≠ q := by
  rintro rfl
  cases h with
  | inl hm => exact absurd hm (UInt32.lt_irrefl _)
  | inr htau => exact absurd htau.2 (UInt32.lt_irrefl _)

theorem pairs_sorted (c : Config) : c.pairs.Pairwise Earlier := by
  unfold pairs
  rw [List.pairwise_flatMap]
  constructor
  · intro m _
    rw [List.pairwise_map]
    exact c.tauSweep.values_sorted.imp fun htau => .inr ⟨rfl, htau⟩
  · refine c.mSweep.values_sorted.imp ?_
    intro m m' hm p hp q hq
    obtain ⟨tau, -, rfl⟩ := List.mem_map.1 hp
    obtain ⟨tau', -, rfl⟩ := List.mem_map.1 hq
    exact .inl hm

theorem pairs_nodup (c : Config) : c.pairs.Nodup := c.pairs_sorted.imp Earlier.ne

namespace Checked

variable {c : Config} {p : Params}

theorem one_le_tau (h : c.Checked) (hp : p ∈ c.pairs) : 1 ≤ p.tau.toNat :=
  h.starts.2.trans (Sweep.start_le_of_mem (mem_pairs.1 hp).2)

theorem tau_le_m (h : c.Checked) (hp : p ∈ c.pairs) : p.tau.toNat ≤ p.m.toNat := by
  obtain ⟨hm, htau⟩ := mem_pairs.1 hp
  calc p.tau.toNat ≤ c.tauSweep.lastOrStart.toNat := Sweep.values_le_last htau
    _ ≤ c.mSweep.start.toNat := h.tauLast
    _ ≤ p.m.toNat := Sweep.start_le_of_mem hm

theorem parties_ne_zero (h : c.Checked) : c.parties.toNat ≠ 0 := by
  have hparties := h.parties
  omega

end Checked

/-- The pair with the largest `m` and the largest `tau`. -/
def corner (c : Config) : Params := ⟨c.mSweep.lastOrStart, c.tauSweep.lastOrStart⟩

theorem Checked.corner_mem {c : Config} (h : c.Checked) : c.corner ∈ c.pairs :=
  mem_pairs.2 ⟨Sweep.lastOrStart_mem h.mSweep.2, Sweep.lastOrStart_mem h.tauSweep.2⟩

/-- No pair of the grid has a larger sum than the corner. -/
theorem sum_le_corner {c : Config} {p : Params} (hp : p ∈ c.pairs) :
    p.m.toNat + p.tau.toNat ≤ c.corner.m.toNat + c.corner.tau.toNat := by
  obtain ⟨hm, htau⟩ := mem_pairs.1 hp
  exact Nat.add_le_add (Sweep.values_le_last hm) (Sweep.values_le_last htau)

end Config

end CutAndChoose
