import Mathlib
import CutAndChoose.Proofs.Search.Sweep

/-!
# CutAndChoose.Proofs.Search.Walk

A stepped range as a loop: from the start on, one stride after the other, for as long as the stop is
not reached. The loop counts in unbounded numbers, so a value that had wrapped around the word
would be none of its values.

* `Walk`: the loop from a number on, with the values that it visits.
* `walk_iff_eq_values`: the values of a range are those that its loop visits.
* `size_eq_ceil`: how many there are, from the two ends and the stride alone.
* `Enumerated`, `sweep_enumerated`: what the values, their number, the test for none and the last
  value say of each other and of the three numbers of the range.
-/

namespace CutAndChoose

namespace Sweep

/-! ## The loop -/

/-- From the number `n` on, the loop visits the values `vs`. -/
inductive Walk (s : Sweep) : ℕ → List UInt32 → Prop where
  | stop {n : ℕ} : s.stop.toNat ≤ n → s.Walk n []
  | visit {n : ℕ} {v : UInt32} {vs : List UInt32} :
      v.toNat = n → v < s.stop → s.Walk (n + s.stride) vs → s.Walk n (v :: vs)

section Loop

variable {s : Sweep} {n i k : ℕ} {v : UInt32} {vs ws : List UInt32}

theorem Walk.eq (h : s.Walk n vs) (h' : s.Walk n ws) : vs = ws := by
  induction h generalizing ws with
  | stop hn =>
    cases h' with
    | stop _ => rfl
    | visit hw hlt _ =>
      rw [UInt32.lt_iff_toNat_lt] at hlt
      omega
  | visit hv hlt _ ih =>
    rw [UInt32.lt_iff_toNat_lt] at hlt
    cases h' with
    | stop hn => omega
    | visit hw _ hrest =>
      have hvalue := UInt32.toNat_inj.1 (hv.trans hw.symm)
      rw [hvalue, ih hrest]

theorem nth_lt_stop (h : i < s.size) : s.nth i < s.stop := by
  rw [UInt32.lt_iff_toNat_lt, toNat_nth h]
  exact lt_size_iff.1 h

/-- By induction on the number `k` of values that are left behind the first `i`. -/
theorem walk_range (h : i + k = s.size) :
    s.Walk (s.start.toNat + i * s.stride) ((List.range' i k).map s.nth) := by
  induction k generalizing i with
  | zero =>
    have hstop : ¬i < s.size := by omega
    rw [lt_size_iff] at hstop
    exact .stop (not_lt.1 hstop)
  | succ k ih =>
    have hi : i < s.size := by omega
    have hnext : s.start.toNat + (i + 1) * s.stride = s.start.toNat + i * s.stride + s.stride := by
      rw [Nat.succ_mul, Nat.add_assoc]
    have hrest := ih (show i + 1 + k = s.size by omega)
    rw [hnext] at hrest
    rw [List.range'_succ, List.map_cons]
    exact .visit (toNat_nth hi) (nth_lt_stop hi) hrest

theorem walk_values (s : Sweep) : s.Walk s.start.toNat s.values := by
  have h := walk_range (Nat.zero_add s.size)
  rwa [Nat.zero_mul, Nat.add_zero, ← List.range_eq_range'] at h

theorem walk_iff_eq_values : s.Walk s.start.toNat vs ↔ vs = s.values := by
  constructor
  · intro h
    exact h.eq s.walk_values
  · rintro rfl
    exact s.walk_values

end Loop

/-! ## The number of values and the last one -/

section Ends

variable {s : Sweep} {k : ℕ}

theorem size_le_iff : s.size ≤ k ↔ s.stop.toNat - s.start.toNat ≤ k * s.stride := by
  rw [← not_lt, lt_size_iff]
  omega

theorem size_eq_zero_iff : s.size = 0 ↔ s.stop ≤ s.start := by
  rw [← Nat.le_zero, size_le_iff, UInt32.le_iff_toNat_le]
  omega

/-- The span over the stride, rounded up. -/
theorem size_eq_ceil (h : s.start ≤ s.stop) :
    s.size = ⌈((s.stop.toNat : ℚ) - s.start.toNat) / s.stride⌉₊ := by
  have hstride : (0 : ℚ) < s.stride := Nat.cast_pos.2 s.stride_pos
  refine eq_of_forall_ge_iff fun k => ?_
  rw [size_le_iff, Nat.ceil_le, div_le_iff₀ hstride,
    ← Nat.cast_sub (UInt32.le_iff_toNat_le.1 h), ← Nat.cast_mul, Nat.cast_le]

theorem isEmpty_iff : s.isEmpty = true ↔ s.stop ≤ s.start := by
  rw [isEmpty, decide_eq_true_eq, size_eq_zero_iff]

theorem last?_eq_none_iff : s.last? = none ↔ s.isEmpty = true := by
  rw [isEmpty, decide_eq_true_eq, last?]
  split
  · rename_i h
    simp [h]
  · rename_i h
    simp [h]

theorem last?_eq_some (h : s.start < s.stop) : s.last? = some s.lastOrStart := by
  have hsize := (size_pos h).ne'
  rw [lastOrStart_eq_nth hsize, last?, if_neg hsize]

theorem toNat_lastOrStart (h : s.start < s.stop) :
    s.lastOrStart.toNat = s.start.toNat + (s.size - 1) * s.stride := by
  have hpos := size_pos h
  rw [lastOrStart_eq_nth hpos.ne', toNat_nth (Nat.sub_lt hpos Nat.one_pos)]

end Ends

/-! ## The enumeration -/

/-- The values of a range in increasing order, and its number of values, its test for none and its
last value, which agree with them. A step of zero counts as one. -/
structure Enumerated (s : Sweep) : Prop where
  sorted : s.values.Pairwise (· < ·)
  mem_iff : ∀ v, v ∈ s.values ↔
    s.start ≤ v ∧ v < s.stop ∧ max s.step.toNat 1 ∣ v.toNat - s.start.toNat
  /-- No value has wrapped around: the loop over unbounded numbers visits the same ones. -/
  walk : ∀ vs, s.Walk s.start.toNat vs ↔ vs = s.values
  position : ∀ i (h : i < s.values.length),
    s.values[i].toNat = s.start.toNat + i * max s.step.toNat 1
  length : s.values.length = s.size
  size : s.size =
    if s.stop ≤ s.start then 0
    else ⌈((s.stop.toNat : ℚ) - s.start.toNat) / (max s.step.toNat 1 : ℕ)⌉₊
  isEmpty : s.isEmpty = true ↔ s.stop ≤ s.start
  last : s.last? = s.values.getLast?
  last_none : s.last? = none ↔ s.isEmpty = true
  last_some : s.isEmpty = false → ∃ v, s.last? = some v ∧
    v.toNat = s.start.toNat + (s.size - 1) * max s.step.toNat 1 ∧
    v ∈ s.values ∧ ∀ w ∈ s.values, w ≤ v

theorem sweep_enumerated (s : Sweep) : s.Enumerated where
  sorted := s.values_sorted
  mem_iff _ := mem_values_iff_visits
  walk _ := walk_iff_eq_values
  position i h := by
    have hi : i < s.size := s.length_values ▸ h
    simp only [values, List.getElem_map, List.getElem_range]
    exact toNat_nth hi
  length := s.length_values
  size := by
    split
    · rename_i h
      exact size_eq_zero_iff.2 h
    · rename_i h
      exact size_eq_ceil (UInt32.le_of_lt (UInt32.not_le.1 h))
  isEmpty := isEmpty_iff
  last := s.last?_eq_getLast?
  last_none := last?_eq_none_iff
  last_some h := by
    have hlt : s.start < s.stop := by
      rw [← UInt32.not_le, ← isEmpty_iff, h]
      exact Bool.false_ne_true
    refine ⟨s.lastOrStart, last?_eq_some hlt, toNat_lastOrStart hlt, lastOrStart_mem hlt, ?_⟩
    intro w hw
    exact UInt32.le_iff_toNat_le.2 (values_le_last hw)

/-- The next value would leave the word. -/
example : (⟨4294967290, 4294967295, 4⟩ : Sweep).values = [4294967290, 4294967294] := by decide

end Sweep

end CutAndChoose
