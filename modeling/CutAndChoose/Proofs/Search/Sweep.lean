import Mathlib
import CutAndChoose.Search.Sweep

/-!
# CutAndChoose.Proofs.Search.Sweep

The visited values of a stepped range. A position counts exactly if it is reached before the stop
(`lt_size_iff`), so positions and values stay within 32 bits (`toNat_nth`), the values increase
(`values_sorted`), and the last one is the largest (`values_le_last`).

`Visits` says which values a range visits, by its bounds and its stride, and
`mem_values_iff_visits` that the list of values holds just these.
-/

namespace CutAndChoose

namespace Sweep

variable {s : Sweep}

/-- A position belongs to the range if it is reached before the stop. -/
theorem lt_size_iff {i : ℕ} : i < s.size ↔ s.start.toNat + i * s.stride < s.stop.toNat := by
  have hpos := s.stride_pos
  have hle : i < s.size ↔ (i + 1) * s.stride ≤ s.stop.toNat - s.start.toNat + (s.stride - 1) :=
    Nat.le_div_iff_mul_le hpos
  rw [hle, Nat.succ_mul]
  omega

theorem toNat_nth {i : ℕ} (h : i < s.size) : (s.nth i).toNat = s.start.toNat + i * s.stride := by
  have hlt := lt_size_iff.1 h
  have hstop := s.stop.toNat_lt_size
  rw [nth, UInt32.toNat_ofNat_of_lt' (hlt.trans hstop)]

theorem mem_values {v : UInt32} : v ∈ s.values ↔ ∃ i, i < s.size ∧ v = s.nth i := by
  unfold values
  simp only [List.mem_map, List.mem_range]
  constructor
  · rintro ⟨i, hi, rfl⟩
    exact ⟨i, hi, rfl⟩
  · rintro ⟨i, hi, rfl⟩
    exact ⟨i, hi, rfl⟩

theorem values_sorted (s : Sweep) : s.values.Pairwise (· < ·) := by
  unfold values
  rw [List.pairwise_map]
  refine List.pairwise_lt_range.imp_of_mem ?_
  intro i j hi hj hij
  rw [UInt32.lt_iff_toNat_lt, toNat_nth (List.mem_range.1 hi), toNat_nth (List.mem_range.1 hj)]
  exact Nat.add_lt_add_left (Nat.mul_lt_mul_of_pos_right hij s.stride_pos) _

/-- The values that a range visits: below the stop, some number of strides behind the start. -/
def Visits (s : Sweep) (v : UInt32) : Prop :=
  s.start ≤ v ∧ v < s.stop ∧ s.stride ∣ v.toNat - s.start.toNat

theorem mem_values_iff_visits {v : UInt32} : v ∈ s.values ↔ s.Visits v := by
  rw [mem_values]
  constructor
  · rintro ⟨i, hi, rfl⟩
    refine ⟨?_, ?_, ?_⟩
    · rw [UInt32.le_iff_toNat_le, toNat_nth hi]
      exact Nat.le_add_right _ _
    · rw [UInt32.lt_iff_toNat_lt, toNat_nth hi]
      exact lt_size_iff.1 hi
    · rw [toNat_nth hi, Nat.add_sub_cancel_left]
      exact Nat.dvd_mul_left _ _
  · rintro ⟨hstart, hstop, i, hi⟩
    rw [UInt32.le_iff_toNat_le] at hstart
    rw [UInt32.lt_iff_toNat_lt] at hstop
    have hvalue : v.toNat = s.start.toNat + i * s.stride := by
      rw [Nat.mul_comm]
      omega
    have hsize : i < s.size := lt_size_iff.2 (hvalue ▸ hstop)
    refine ⟨i, hsize, ?_⟩
    rw [← UInt32.toNat_inj, toNat_nth hsize, hvalue]

theorem start_le_of_mem {v : UInt32} (h : v ∈ s.values) : s.start.toNat ≤ v.toNat :=
  UInt32.le_iff_toNat_le.1 (mem_values_iff_visits.1 h).1

/-- A range that starts before its stop visits its start. -/
theorem start_visited (h : s.start < s.stop) : s.Visits s.start := by
  refine ⟨UInt32.le_refl _, h, ?_⟩
  rw [Nat.sub_self]
  exact Nat.dvd_zero _

theorem size_pos (h : s.start < s.stop) : 0 < s.size := by
  rw [lt_size_iff, Nat.zero_mul, Nat.add_zero]
  exact UInt32.lt_iff_toNat_lt.1 h

/-- The last value, or the start of a range without values. -/
def lastOrStart (s : Sweep) : UInt32 := s.last?.getD s.start

theorem lastOrStart_eq_nth (h : s.size ≠ 0) : s.lastOrStart = s.nth (s.size - 1) := by
  rw [lastOrStart, last?, if_neg h, Option.getD_some]

theorem lastOrStart_mem (h : s.start < s.stop) : s.lastOrStart ∈ s.values := by
  have hpos := size_pos h
  exact mem_values.2 ⟨s.size - 1, by omega, lastOrStart_eq_nth hpos.ne'⟩

theorem lastOrStart_visited (h : s.start < s.stop) : s.Visits s.lastOrStart :=
  mem_values_iff_visits.1 (lastOrStart_mem h)

/-- The last visited value is the largest. -/
theorem values_le_last {v : UInt32} (h : v ∈ s.values) : v.toNat ≤ s.lastOrStart.toNat := by
  obtain ⟨i, hi, rfl⟩ := mem_values.1 h
  have hlast : s.size - 1 < s.size := by omega
  rw [lastOrStart_eq_nth (by omega), toNat_nth hi, toNat_nth hlast]
  exact Nat.add_le_add_left (Nat.mul_le_mul_right _ (by omega)) _

/-- A step that is not zero is the distance between visited values. -/
theorem stride_eq_step (h : s.step ≠ 0) : s.stride = s.step.toNat := by
  have hpos : s.step.toNat ≠ 0 := fun hzero => h (UInt32.toNat_inj.1 hzero)
  unfold stride
  omega

theorem check_eq_ok_iff {label : String} {u : Unit} :
    s.check label = .ok u ↔ s.step ≠ 0 ∧ s.start < s.stop := by
  unfold check
  split
  · rename_i h
    simp [h]
  · rename_i h
    split
    · rename_i hlt
      simp [h, hlt]
    · rename_i hge
      simp [hge]

end Sweep

end CutAndChoose
