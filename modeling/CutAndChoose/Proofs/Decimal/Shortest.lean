import Mathlib
import CutAndChoose.Decimal.Notation
import CutAndChoose.Proofs.Decimal.Value

/-!
# CutAndChoose.Proofs.Decimal.Shortest

The shortest decimal of a magnitude reads back as that magnitude (`magnitude?_shortest`). The
finest grid that is tried has steps of at most an eighth of the gap between neighbours, and what
lies so close to a magnitude is rounded to it (`nearest_of_near`), so the search never fails.
-/

namespace CutAndChoose

open Magnitude (unit unit_pos)

namespace Magnitude

/-! ## Close to a magnitude -/

/-- Above its gap a magnitude has at most 53 digits, so its successor is no longer than it. -/
theorem units_add_gap_le (a : Magnitude) :
    a.units + 2 ^ (a.units.log2 - fractionBits) ≤
      2 ^ precision * 2 ^ (a.units.log2 - fractionBits) := by
  obtain ⟨q, hq⟩ := a.exact
  have hlt : a.units < 2 ^ precision * 2 ^ (a.units.log2 - fractionBits) := by
    rw [← pow_add]
    exact Nat.lt_log2_self.trans_le (Nat.pow_le_pow_right (by decide) (by rw [precision_eq]; omega))
  generalize 2 ^ (a.units.log2 - fractionBits) = gap at hq hlt ⊢
  rw [hq, mul_comm gap] at hlt ⊢
  have hdigits : q + 1 ≤ 2 ^ precision := Nat.lt_of_mul_lt_mul_right hlt
  rw [← Nat.succ_mul]
  exact Nat.mul_le_mul_right gap hdigits

theorem gapExponent_le {num den s : Nat} (hd : 0 < den) (h : num < 2 ^ precision * 2 ^ s * den) :
    gapExponent num den ≤ s := by
  unfold gapExponent
  by_cases h0 : num / den = 0
  · simp [h0]
  · have hlog : (num / den).log2 < precision + s := by
      rw [Nat.log2_lt h0, pow_add]
      exact (Nat.div_lt_iff_lt_mul hd).2 h
    rw [precision_eq] at hlog
    omega

theorem le_gapExponent {num den s : Nat} (hd : 0 < den) (h : 2 ^ fractionBits * 2 ^ s * den ≤ num) :
    s ≤ gapExponent num den := by
  have hquot : 2 ^ (fractionBits + s) ≤ num / den := by
    rw [pow_add]
    exact (Nat.le_div_iff_mul_le hd).2 h
  have h0 : num / den ≠ 0 := (lt_of_lt_of_le (Nat.two_pow_pos _) hquot).ne'
  have hlog : fractionBits + s ≤ (num / den).log2 := (Nat.le_log2 h0).2 hquot
  unfold gapExponent
  omega

theorem divNearest_eq {num step q : Nat} (hlow : 2 * (q * step) < 2 * num + step)
    (hup : 2 * num < 2 * (q * step) + step) : divNearest num step = q := by
  have hstep : 0 < step := by omega
  have hover := two_mul_divNearest_le num step
  have hunder := @le_two_mul_divNearest num step hstep
  rcases Nat.lt_trichotomy (divNearest num step) q with hlt | heq | hgt
  · have hmul := Nat.mul_le_mul_right step (Nat.succ_le_of_lt hlt)
    rw [Nat.succ_mul] at hmul
    omega
  · exact heq
  · have hmul := Nat.mul_le_mul_right step (Nat.succ_le_of_lt hgt)
    rw [Nat.succ_mul] at hmul
    omega

section Near

variable {a : Magnitude} {num den : Nat}

/-- Close to a magnitude the gap is that of the magnitude, or half of it below a power of two. -/
theorem gapExponent_of_near (hd : 0 < den)
    (hlow : 8 * (a.units * den) ≤ 8 * num + 2 ^ (a.units.log2 - fractionBits) * den)
    (hup : 8 * num ≤ 8 * (a.units * den) + 2 ^ (a.units.log2 - fractionBits) * den) :
    gapExponent num den ≤ a.units.log2 - fractionBits ∧
      a.units.log2 - fractionBits ≤ gapExponent num den + 1 := by
  have hgap := Nat.mul_le_mul_right den a.units_add_gap_le
  have hlog : a.units.log2 - fractionBits ≠ 0 →
      2 ^ fractionBits * 2 ^ (a.units.log2 - fractionBits) ≤ a.units := by
    intro h
    rw [← pow_add, Nat.add_sub_cancel' (by omega)]
    exact Nat.log2_self_le (by rintro h0; simp [h0] at h)
  generalize a.units.log2 - fractionBits = s at *
  have hpos : 0 < 2 ^ s * den := Nat.mul_pos (Nat.two_pow_pos s) hd
  constructor
  · refine gapExponent_le hd ?_
    rw [add_mul] at hgap
    omega
  · cases s with
    | zero => exact Nat.zero_le _
    | succ t =>
      refine Nat.succ_le_succ (le_gapExponent hd ?_)
      have hlow' := Nat.mul_le_mul_right den (hlog t.succ_ne_zero)
      have hsmall : 2 ^ t * den ≤ 2 ^ fractionBits * 2 ^ t * den := by
        rw [mul_assoc]
        exact Nat.le_mul_of_pos_left _ (Nat.two_pow_pos _)
      have hdouble : 2 ^ fractionBits * 2 ^ (t + 1) * den =
          2 * (2 ^ fractionBits * 2 ^ t * den) := by
        ring
      have hgap' : 2 ^ (t + 1) * den = 2 * (2 ^ t * den) := by ring
      rw [hdouble] at hlow'
      rw [hgap'] at hlow
      omega

/-- A quotient within an eighth of the gap of a magnitude is rounded to it. -/
theorem nearestUnits_of_near (hd : 0 < den)
    (hlow : 8 * (a.units * den) ≤ 8 * num + 2 ^ (a.units.log2 - fractionBits) * den)
    (hup : 8 * num ≤ 8 * (a.units * den) + 2 ^ (a.units.log2 - fractionBits) * den) :
    nearestUnits num den = a.units := by
  obtain ⟨hle, hge⟩ := gapExponent_of_near hd hlow hup
  obtain ⟨q, hq⟩ := (Nat.pow_dvd_pow 2 hle).trans a.exact
  have hpos := den_gap_pos num hd
  have hunits : a.units * den = q * (den * 2 ^ gapExponent num den) := by
    rw [hq]
    ring
  have hwide : 2 ^ (a.units.log2 - fractionBits) * den ≤ 2 * (den * 2 ^ gapExponent num den) := by
    calc 2 ^ (a.units.log2 - fractionBits) * den ≤ 2 ^ (gapExponent num den + 1) * den :=
          Nat.mul_le_mul_right den (Nat.pow_le_pow_right (by decide) hge)
      _ = 2 * (den * 2 ^ gapExponent num den) := by ring
  have hdigits : divNearest num (den * 2 ^ gapExponent num den) = q := by
    rw [hunits] at hlow hup
    exact divNearest_eq (by omega) (by omega)
  unfold nearestUnits
  dsimp only
  rw [hdigits, hq, mul_comm]

end Near

end Magnitude

namespace Binary64

/-- What lies within an eighth of the gap of a magnitude is rounded to it. -/
theorem nearest_of_near {v : ℚ} (hv : 0 ≤ v) {a : Magnitude}
    (hlow : a.value ≤ v + 2 ^ (a.units.log2 - Magnitude.fractionBits) * unit / 8)
    (hup : v ≤ a.value + 2 ^ (a.units.log2 - Magnitude.fractionBits) * unit / 8) :
    nearest v = finite false a := by
  have hunit := unit_pos
  have hden : (0 : ℚ) < v.den := by exact_mod_cast v.den_pos
  have hnum : ((v.num.toNat * Magnitude.one : ℕ) : ℚ) * unit = v * v.den := by
    rw [Nat.cast_mul, mul_assoc, Magnitude.one_mul_unit, mul_one, num_toNat hv]
  have hlow' := mul_le_mul_of_nonneg_right hlow hden.le
  have hup' := mul_le_mul_of_nonneg_right hup hden.le
  rw [Magnitude.value] at hlow' hup'
  refine nearest_eq_finite_iff.2 (Magnitude.nearestUnits_of_near v.den_pos ?_ ?_).symm
  · rw [← Nat.cast_le (α := ℚ)]
    refine le_of_mul_le_mul_right ?_ hunit
    push_cast at hnum ⊢
    linarith
  · rw [← Nat.cast_le (α := ℚ)]
    refine le_of_mul_le_mul_right ?_ hunit
    push_cast at hnum ⊢
    linarith

end Binary64

open Binary64

/-! ## The search -/

theorem ten_pow_le_two_pow {q e : ℕ} (h : 196 * q ≤ 59 * e) : 10 ^ q ≤ 2 ^ e := by
  refine le_of_pow_le_pow_left₀ (by decide : 59 ≠ 0) (Nat.zero_le _) ?_
  calc (10 ^ q) ^ 59 = (10 ^ 59) ^ q := by rw [← pow_mul, ← pow_mul, mul_comm]
    _ ≤ (2 ^ 196) ^ q := Nat.pow_le_pow_left (by norm_num) q
    _ = 2 ^ (196 * q) := (pow_mul _ _ _).symm
    _ ≤ 2 ^ (59 * e) := Nat.pow_le_pow_right (by decide) h
    _ = (2 ^ e) ^ 59 := by rw [← pow_mul, mul_comm]

theorem two_pow_le_ten_pow {e q : ℕ} (h : 28 * e ≤ 93 * q) : 2 ^ e ≤ 10 ^ q := by
  refine le_of_pow_le_pow_left₀ (by decide : 93 ≠ 0) (Nat.zero_le _) ?_
  calc (2 ^ e) ^ 93 = (2 ^ 93) ^ e := by rw [← pow_mul, ← pow_mul, mul_comm]
    _ ≤ (10 ^ 28) ^ e := Nat.pow_le_pow_left (by norm_num) e
    _ = 10 ^ (28 * e) := (pow_mul _ _ _).symm
    _ ≤ 10 ^ (93 * q) := Nat.pow_le_pow_right (by decide) h
    _ = (10 ^ q) ^ 93 := by rw [← pow_mul, mul_comm]

/-- Ten to a whole number of digits, against the binary digits it is computed from. -/
theorem ten_zpow_le_two_zpow {e : ℤ} (hlow : -1074 ≤ e) (hhigh : e ≤ 1024) :
    (10 : ℚ) ^ (e * 30103 / 100000) ≤ 2 ^ (e + 3) := by
  rcases le_or_gt 0 (e * 30103 / 100000) with hq | hq
  · obtain ⟨q, hq'⟩ := Int.eq_ofNat_of_zero_le hq
    obtain ⟨n, hn⟩ : ∃ n : ℕ, e + 3 = n := ⟨(e + 3).toNat, by omega⟩
    rw [hq', hn, zpow_natCast, zpow_natCast]
    exact_mod_cast @ten_pow_le_two_pow q n (by omega)
  · obtain ⟨q, hq'⟩ : ∃ q : ℕ, e * 30103 / 100000 = -q := ⟨(-(e * 30103 / 100000)).toNat, by omega⟩
    rw [hq', zpow_neg, zpow_natCast, inv_le_comm₀ (by positivity) (by positivity), ← zpow_neg]
    rcases le_or_gt 0 (-(e + 3)) with hn | hn
    · obtain ⟨n, hn'⟩ := Int.eq_ofNat_of_zero_le hn
      rw [hn', zpow_natCast]
      exact_mod_cast @two_pow_le_ten_pow n q (by omega)
    · exact (zpow_le_one_of_nonpos₀ one_le_two hn.le).trans (one_le_pow₀ (by norm_num))

namespace Magnitude

/-- The finest grid that is tried is finer than an eighth of the gap. -/
theorem finest_grid_le {a : Magnitude} (ha : a.units ≠ 0) :
    (10 : ℚ) ^ (a.decimalBound - 19) ≤ 2 ^ (a.units.log2 - fractionBits) * unit / 8 := by
  have hlimit : 2 ^ (precision + topGap) = limit := by rw [Nat.pow_add, limit]
  have hlog : a.units.log2 < precision + topGap := (Nat.log2_lt ha).2 (hlimit ▸ a.bounded)
  have hlength : precision + topGap = 2098 := rfl
  have hplaces : (unitPlaces : ℤ) = 1074 := rfl
  have hbits : fractionBits = 52 := rfl
  have hbound : a.decimalBound - 19 =
      ((a.units.log2 + 1 : ℤ) - unitPlaces) * 30103 / 100000 - 18 := by
    unfold decimalBound
    omega
  have hten := @ten_zpow_le_two_zpow ((a.units.log2 + 1 : ℤ) - unitPlaces) (by omega) (by omega)
  have hgap : (2 : ℚ) ^ ((a.units.log2 : ℤ) - 52 - unitPlaces) ≤
      2 ^ (a.units.log2 - fractionBits) * unit := by
    have hunits := @two_pow_mul_unit_eq (a.units.log2 - fractionBits)
      (((a.units.log2 - fractionBits : ℕ) : ℤ) - unitPlaces) (by omega)
    rw [hunits]
    exact zpow_le_zpow_right₀ one_le_two (by omega)
  have hsplit : (a.units.log2 + 1 : ℤ) - unitPlaces + 3 =
      (a.units.log2 : ℤ) - 52 - unitPlaces + 56 := by
    ring
  rw [hbound, zpow_sub₀ (by norm_num)]
  calc (10 : ℚ) ^ (((a.units.log2 + 1 : ℤ) - unitPlaces) * 30103 / 100000) / 10 ^ (18 : ℤ)
      ≤ 2 ^ ((a.units.log2 + 1 : ℤ) - unitPlaces + 3) / 10 ^ (18 : ℤ) :=
        div_le_div_of_nonneg_right hten (by positivity)
    _ = 2 ^ ((a.units.log2 : ℤ) - 52 - unitPlaces) * (2 ^ (56 : ℤ) / 10 ^ (18 : ℤ)) := by
        rw [hsplit, zpow_add₀ two_ne_zero, mul_div_assoc]
    _ ≤ 2 ^ ((a.units.log2 : ℤ) - 52 - unitPlaces) * (1 / 8) :=
        mul_le_mul_of_nonneg_left (by norm_num) (by positivity)
    _ ≤ 2 ^ (a.units.log2 - fractionBits) * unit / 8 := by
        rw [mul_one_div]
        exact div_le_div_of_nonneg_right hgap (by norm_num)

theorem readBy_iff {a : Magnitude} {d : Decimal} : a.readBy d = true ↔ d.magnitude? = some a := by
  rw [readBy, beq_iff_eq]

/-- The quotient is the value in steps of the grid. -/
theorem overPowerOfTen_value (a : Magnitude) (k : ℤ) :
    0 < (a.overPowerOfTen k).2 ∧
      ((a.overPowerOfTen k).1 : ℚ) * 10 ^ k = a.value * (a.overPowerOfTen k).2 := by
  have hone : (one : ℚ) * unit = 1 := one_mul_unit
  unfold overPowerOfTen value
  split
  · rename_i hk
    obtain ⟨n, rfl⟩ := Int.eq_ofNat_of_zero_le hk
    refine ⟨Nat.mul_pos one_pos (Nat.pow_pos (by decide)), ?_⟩
    dsimp only
    rw [Int.toNat_natCast, zpow_natCast]
    push_cast
    linear_combination (-(a.units * 10 ^ n : ℚ)) * hone
  · rename_i hk
    obtain ⟨n, rfl⟩ : ∃ n : ℕ, k = -n := ⟨(-k).toNat, by omega⟩
    refine ⟨one_pos, ?_⟩
    dsimp only
    rw [neg_neg, Int.toNat_natCast, zpow_neg, zpow_natCast]
    push_cast
    rw [mul_inv_cancel_right₀ (by positivity)]
    linear_combination (-(a.units : ℚ)) * hone

/-- The multiple of `10^k` at or below a magnitude. -/
def below (a : Magnitude) (k : ℤ) : Decimal :=
  ⟨(a.overPowerOfTen k).1 / (a.overPowerOfTen k).2, k⟩

def above (a : Magnitude) (k : ℤ) : Decimal :=
  ⟨(a.overPowerOfTen k).1 / (a.overPowerOfTen k).2 + 1, k⟩

/-- One step below `a` at most. -/
theorem below_near (a : Magnitude) (k : ℤ) :
    (a.below k).value ≤ a.value ∧ a.value ≤ (a.below k).value + 10 ^ k := by
  obtain ⟨hden, hvalue⟩ := a.overPowerOfTen_value k
  unfold below Decimal.value
  generalize (a.overPowerOfTen k).1 = num at hvalue ⊢
  generalize (a.overPowerOfTen k).2 = den at hden hvalue ⊢
  have hden' : (0 : ℚ) < den := by exact_mod_cast hden
  have hstep : (0 : ℚ) < 10 ^ k := by positivity
  have hlow : ((num / den : ℕ) : ℚ) * den ≤ num := by exact_mod_cast Nat.div_mul_le_self num den
  have hup : (num : ℚ) ≤ ((num / den : ℕ) + 1) * den := by
    exact_mod_cast (Nat.lt_mul_of_div_lt (Nat.lt_succ_self _) hden).le
  have hlow' := mul_le_mul_of_nonneg_right hlow hstep.le
  have hup' := mul_le_mul_of_nonneg_right hup hstep.le
  constructor
  · refine le_of_mul_le_mul_right ?_ hden'
    linarith
  · refine le_of_mul_le_mul_right ?_ hden'
    linarith

/-- Both neighbours are tried, in one order or the other. -/
theorem neighbour?_cases (tie : Tie) (a : Magnitude) (k : ℤ) :
    ∃ first second,
      (first = a.below k ∧ second = a.above k ∨ first = a.above k ∧ second = a.below k) ∧
      a.neighbour? tie k =
        if a.readBy first then some first else if a.readBy second then some second else none := by
  unfold neighbour? below above
  dsimp only
  generalize (a.overPowerOfTen k).1 = num
  generalize (a.overPowerOfTen k).2 = den
  by_cases hp : 2 * (num % den) < den ∨
      (2 * (num % den) = den ∧ tie = .even ∧ num / den % 2 = 0)
  · rw [if_pos hp]
    exact ⟨_, _, .inl ⟨rfl, rfl⟩, rfl⟩
  · rw [if_neg hp]
    exact ⟨_, _, .inr ⟨rfl, rfl⟩, rfl⟩

theorem neighbour?_spec {tie : Tie} {a : Magnitude} {k : ℤ} {d : Decimal}
    (h : a.neighbour? tie k = some d) : d.magnitude? = some a ∧ d.exponent = k := by
  obtain ⟨first, second, horder, htry⟩ := neighbour?_cases tie a k
  have hexp : first.exponent = k ∧ second.exponent = k := by
    rcases horder with ⟨rfl, rfl⟩ | ⟨rfl, rfl⟩ <;> exact ⟨rfl, rfl⟩
  rw [htry] at h
  split at h
  · rename_i hfirst
    cases h
    exact ⟨readBy_iff.1 hfirst, hexp.1⟩
  · split at h
    · rename_i hsecond
      cases h
      exact ⟨readBy_iff.1 hsecond, hexp.2⟩
    · cases h

theorem neighbour?_isSome {tie : Tie} {a : Magnitude} {k : ℤ} (h : a.readBy (a.below k) = true) :
    (a.neighbour? tie k).isSome = true := by
  obtain ⟨first, second, horder, htry⟩ := neighbour?_cases tie a k
  rw [htry]
  rcases horder with ⟨rfl, -⟩ | ⟨-, rfl⟩
  · rw [if_pos h]
    rfl
  · rw [if_pos h]
    split <;> rfl

/-- On the finest grid the neighbour below reads back. -/
theorem readBy_below {a : Magnitude} (ha : a.units ≠ 0) :
    a.readBy (a.below (a.decimalBound - 19)) = true := by
  have hgrid := finest_grid_le ha
  obtain ⟨hlow, hup⟩ := a.below_near (a.decimalBound - 19)
  have hgap : 0 ≤ 2 ^ (a.units.log2 - fractionBits) * unit / 8 :=
    (zpow_nonneg (by norm_num) _).trans hgrid
  rw [readBy_iff, Decimal.magnitude?_eq_some_iff]
  refine nearest_of_near (Decimal.value_nonneg _) ?_ ?_
  · linarith
  · linarith

/-- The search behind the shortest decimal succeeds on one of its grids. -/
theorem shortest_spec (tie : Tie) {a : Magnitude} (ha : a.units ≠ 0) :
    ∃ i < 20, a.neighbour? tie (a.decimalBound - (i : ℕ)) = some (a.shortest tie) := by
  unfold shortest
  rw [if_neg ha]
  cases hsearch : (List.range 20).findSome? fun (i : ℕ) =>
      a.neighbour? tie (a.decimalBound - i) with
  | none =>
    -- The last grid is the finest, and on it the search cannot have failed.
    have hlast := List.findSome?_eq_none_iff.1 hsearch 19 (by decide)
    have hsome := @neighbour?_isSome tie _ _ (readBy_below ha)
    rw [Option.isSome_iff_ne_none] at hsome
    exact absurd hlast hsome
  | some d =>
    obtain ⟨i, hi, hd⟩ := List.exists_of_findSome?_eq_some hsearch
    exact ⟨i, List.mem_range.1 hi, hd⟩

/-- The shortest decimal of a magnitude reads back. -/
theorem magnitude?_shortest (tie : Tie) (a : Magnitude) :
    (a.shortest tie).magnitude? = some a := by
  by_cases ha : a.units = 0
  · have hzero : a = zero := eq_of_units_eq ha
    subst hzero
    rfl
  · obtain ⟨i, -, hi⟩ := shortest_spec tie ha
    exact (neighbour?_spec hi).1

theorem shortest_exponent_of_digits {tie : Tie} {a : Magnitude} (h : (a.shortest tie).digits = 0) :
    (a.shortest tie).exponent = 0 := by
  have hread := a.magnitude?_shortest tie
  unfold Decimal.magnitude? at hread
  rw [if_pos h] at hread
  cases hread
  rfl

/-- The digits reach from the greatest number down to the finest grid of all. -/
theorem shortest_length_le (tie : Tie) (a : Magnitude) :
    (decimalDigits (a.shortest tie).digits).length ≤ 700 := by
  by_cases ha : a.units = 0
  · have hzero : a.shortest tie = ⟨0, 0⟩ := if_pos ha
    rw [hzero]
    decide
  · obtain ⟨i, hi, hgrid⟩ := shortest_spec tie ha
    obtain ⟨hread, hexp⟩ := neighbour?_spec hgrid
    have hlow : 0 ≤ 350 + (a.shortest tie).exponent := by
      have hplaces : (unitPlaces : ℤ) = 1074 := rfl
      rw [hexp, decimalBound]
      omega
    have hvalue : (a.shortest tie).value < 2 ^ 1024 := by
      by_contra hge
      rw [Decimal.magnitude?_eq_some_iff, nearest_eq_infinite (not_lt.1 hge)] at hread
      cases hread
    have hlimit : (2 : ℚ) ^ 1024 ≤ 10 ^ 350 := by
      exact_mod_cast @two_pow_le_ten_pow 1024 350 (by decide)
    have hshift : ((a.shortest tie).digits : ℚ) ≤ (a.shortest tie).value * 10 ^ 350 := by
      have hsplit : (a.shortest tie).value * 10 ^ 350 =
          (a.shortest tie).digits * 10 ^ (350 + (a.shortest tie).exponent) := by
        rw [Decimal.value, zpow_add₀ (by norm_num), mul_assoc, mul_comm (10 ^ _ : ℚ)]
        rfl
      rw [hsplit]
      exact le_mul_of_one_le_right (Nat.cast_nonneg _) (one_le_zpow₀ (by norm_num) hlow)
    have hbound : ((a.shortest tie).digits : ℚ) < 10 ^ 700 := by
      calc ((a.shortest tie).digits : ℚ) ≤ (a.shortest tie).value * 10 ^ 350 := hshift
        _ < 2 ^ 1024 * 10 ^ 350 := mul_lt_mul_of_pos_right hvalue (by positivity)
        _ ≤ 10 ^ 350 * 10 ^ 350 := mul_le_mul_of_nonneg_right hlimit (by positivity)
        _ = 10 ^ 700 := (pow_add _ _ _).symm
    rw [decimalDigits, Nat.length_toDigits_le_iff (by decide) (by decide)]
    exact_mod_cast hbound

end Magnitude

end CutAndChoose
