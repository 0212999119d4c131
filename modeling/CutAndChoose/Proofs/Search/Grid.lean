import Mathlib
import CutAndChoose.Proofs.Search.Config

/-!
# CutAndChoose.Proofs.Search.Grid

The grid of a search as a table with one row for each `m` and one column for each `tau`, read row by
row.

* `pairs_eq_map_range`: the pair at each position. Its row and its column are the quotient and the
  remainder of the position by the number of columns.
* `IsGridOf`: a list of all pairs of two ranges in this order, each once.
* `grid_enumeration`: the grid of a config that passes its check is such a list.
-/

namespace CutAndChoose

/-- A table of `a` rows and `b` columns, read row by row. -/
theorem flatMap_range_map {α : Type} (f : ℕ → ℕ → α) (a b : ℕ) :
    (List.range a).flatMap (fun i => (List.range b).map (f i)) =
      (List.range (a * b)).map fun k => f (k / b) (k % b) := by
  induction a with
  | zero => simp
  | succ a ih =>
    have hrow : ((List.range b).map (a * b + ·)).map (fun k => f (k / b) (k % b)) =
        (List.range b).map (f a) := by
      rw [List.map_map]
      refine List.map_congr_left fun j hj => ?_
      have hlt := List.mem_range.1 hj
      have hquotient : (a * b + j) / b = a := by
        rw [Nat.mul_comm, Nat.mul_add_div (by omega), Nat.div_eq_of_lt hlt, Nat.add_zero]
      have hremainder : (a * b + j) % b = j := by
        rw [Nat.mul_comm, Nat.mul_add_mod, Nat.mod_eq_of_lt hlt]
      rw [Function.comp_apply, hquotient, hremainder]
    rw [List.range_succ, List.flatMap_append, ih, Nat.succ_mul, List.range_add, List.map_append,
      hrow, List.flatMap_singleton]

namespace Config

variable {c : Config}

/-! ## Positions -/

/-- The pair in the row and the column of a position. -/
def pairAt (c : Config) (i : ℕ) : Params :=
  ⟨c.mSweep.nth (i / c.tauSweep.size), c.tauSweep.nth (i % c.tauSweep.size)⟩

theorem pairs_eq_map_range (c : Config) :
    c.pairs = (List.range (c.mSweep.size * c.tauSweep.size)).map c.pairAt := by
  have hrows := flatMap_range_map (fun i j => (⟨c.mSweep.nth i, c.tauSweep.nth j⟩ : Params))
    c.mSweep.size c.tauSweep.size
  unfold pairs Sweep.values
  rw [List.flatMap_map]
  simp only [List.map_map]
  exact hrows

theorem length_pairs (c : Config) : c.pairs.length = c.mSweep.size * c.tauSweep.size := by
  rw [pairs_eq_map_range, List.length_map, List.length_range]

theorem getElem_pairs {i : ℕ} (h : i < c.pairs.length) : c.pairs[i] = c.pairAt i := by
  simp only [pairs_eq_map_range, List.getElem_map, List.getElem_range]

theorem toNat_pairAt {i : ℕ} (h : i < c.pairs.length) :
    (c.pairAt i).m.toNat = c.mSweep.start.toNat + i / c.tauSweep.size * c.mSweep.stride ∧
      (c.pairAt i).tau.toNat =
        c.tauSweep.start.toNat + i % c.tauSweep.size * c.tauSweep.stride := by
  rw [length_pairs] at h
  have hrow : i / c.tauSweep.size < c.mSweep.size :=
    Nat.div_lt_of_lt_mul (Nat.mul_comm _ _ ▸ h)
  have hcolumn : i % c.tauSweep.size < c.tauSweep.size :=
    Nat.mod_lt i (Nat.pos_of_mul_pos_left (Nat.zero_lt_of_lt h))
  exact ⟨Sweep.toNat_nth hrow, Sweep.toNat_nth hcolumn⟩

end Config

/-! ## The grid of a checked config -/

/-- The pairs of the two ranges of a config, by `m` and then by `tau`, each once and at the position
that its row and its column give it. No pair has a `tau` of zero or above its `m`. -/
structure IsGridOf (ps : List Params) (c : Config) : Prop where
  length : ps.length = c.mSweep.size * c.tauSweep.size
  sorted : ps.Pairwise Config.Earlier
  nodup : ps.Nodup
  mem_iff : ∀ p, p ∈ ps ↔
    (c.mSweep.start ≤ p.m ∧ p.m < c.mSweep.stop ∧
      c.mSweep.step.toNat ∣ p.m.toNat - c.mSweep.start.toNat) ∧
    (c.tauSweep.start ≤ p.tau ∧ p.tau < c.tauSweep.stop ∧
      c.tauSweep.step.toNat ∣ p.tau.toNat - c.tauSweep.start.toNat)
  position : ∀ i (h : i < ps.length),
    ps[i].m.toNat = c.mSweep.start.toNat + i / c.tauSweep.size * c.mSweep.step.toNat ∧
    ps[i].tau.toNat = c.tauSweep.start.toNat + i % c.tauSweep.size * c.tauSweep.step.toNat
  proper : ∀ p ∈ ps, 1 ≤ p.tau ∧ p.tau ≤ p.m

theorem Config.Checked.isGridOf_pairs {c : Config} (h : c.Checked) : IsGridOf c.pairs c where
  length := c.length_pairs
  sorted := c.pairs_sorted
  nodup := c.pairs_nodup
  mem_iff p := by
    rw [Config.mem_pairs, Sweep.mem_values_iff_visits, Sweep.mem_values_iff_visits, Sweep.Visits,
      Sweep.Visits, Sweep.stride_eq_step h.mSweep.1, Sweep.stride_eq_step h.tauSweep.1]
  position i hi := by
    have hvalues := Config.toNat_pairAt hi
    rwa [Sweep.stride_eq_step h.mSweep.1, Sweep.stride_eq_step h.tauSweep.1,
      ← Config.getElem_pairs hi] at hvalues
  proper p hp :=
    ⟨UInt32.le_iff_toNat_le.2 (h.one_le_tau hp), UInt32.le_iff_toNat_le.2 (h.tau_le_m hp)⟩

/-- A config that passes its check has a grid, and it lists all pairs in order. -/
theorem grid_enumeration {c : Config} (hcheck : c.check = .ok ()) :
    ∃ ps, c.grid = .ok ps ∧ IsGridOf ps c :=
  ⟨c.pairs, Config.grid_of_check hcheck, (Config.check_eq_ok_iff.1 hcheck).isGridOf_pairs⟩

/-- Two ranges whose stops their steps do not hit. -/
def offStep : Config := { Config.default with mSweep := ⟨16, 33, 8⟩, tauSweep := ⟨8, 20, 8⟩ }

theorem grid_enumeration_offStep :
    offStep.check = .ok () ∧ ∃ ps, offStep.grid = .ok ps ∧ IsGridOf ps offStep ∧
      ps = [⟨16, 8⟩, ⟨16, 16⟩, ⟨24, 8⟩, ⟨24, 16⟩, ⟨32, 8⟩, ⟨32, 16⟩] := by
  have hcheck : offStep.check = .ok () := by decide +kernel
  obtain ⟨ps, hps, hgrid⟩ := grid_enumeration hcheck
  refine ⟨hcheck, ps, hps, hgrid, ?_⟩
  rw [Config.grid_of_check hcheck] at hps
  cases hps
  decide

end CutAndChoose
