import Mathlib
import CutAndChoose.Binary64.Round

/-!
# CutAndChoose.Proofs.Binary64.Rounding

Rounding to the nearest multiple of the gap, on natural numbers. For `num / den` units the result
`Magnitude.nearestUnits num den`

* depends on the quotient alone (`nearestUnits_congr`) and is monotone in it (`nearestUnits_mono`),
* keeps a number that lies on the grid of magnitudes (`nearestUnits_grid`),
* commutes with doubling from 53 digits on (`nearestUnits_mul_two_pow`),
* is off by at most half a gap (`nearestUnits_le`, `le_nearestUnits`), where the gap is one unit or
  at most `2^-52` of the quotient (`gap_le`).
-/

namespace CutAndChoose

attribute [local instance (2000)] instPowNat

/-! ## The nearest natural number -/

theorem divNearest_cases (num den : Nat) :
    (divNearest num den = num / den ∧ 2 * (num % den) ≤ den) ∨
      (divNearest num den = num / den + 1 ∧ den ≤ 2 * (num % den)) := by
  unfold divNearest
  dsimp only
  split
  · exact .inl ⟨rfl, by omega⟩
  · exact .inr ⟨rfl, by omega⟩

/-- The result is at most half above the quotient. -/
theorem two_mul_divNearest_le (num den : Nat) :
    2 * (divNearest num den * den) ≤ 2 * num + den := by
  have hdiv := Nat.div_add_mod num den
  rw [Nat.mul_comm] at hdiv
  rcases divNearest_cases num den with ⟨h, hr⟩ | ⟨h, hr⟩
  · rw [h]; omega
  · rw [h, Nat.add_mul, Nat.one_mul]; omega

/-- The result is at most half below the quotient. -/
theorem le_two_mul_divNearest {num den : Nat} (hd : 0 < den) :
    2 * num ≤ 2 * (divNearest num den * den) + den := by
  have hdiv := Nat.div_add_mod num den
  have hmod := Nat.mod_lt num hd
  rw [Nat.mul_comm] at hdiv
  rcases divNearest_cases num den with ⟨h, hr⟩ | ⟨h, hr⟩
  · rw [h]; omega
  · rw [h, Nat.add_mul, Nat.one_mul]; omega

theorem divNearest_mul (num den : Nat) {c : Nat} (hc : 0 < c) :
    divNearest (num * c) (den * c) = divNearest num den := by
  unfold divNearest
  dsimp only
  rw [Nat.mul_div_mul_right _ _ hc, Nat.mul_mod_mul_right, ← Nat.mul_assoc 2]
  have hlt : 2 * (num % den) * c < den * c ↔ 2 * (num % den) < den := Nat.mul_lt_mul_right hc
  have heq : 2 * (num % den) * c = den * c ↔ 2 * (num % den) = den :=
    Nat.mul_left_inj (Nat.pos_iff_ne_zero.mp hc)
  simp only [hlt, heq]

theorem divNearest_mul_self {den : Nat} (k : Nat) (hd : 0 < den) :
    divNearest (k * den) den = k := by
  unfold divNearest
  simp [Nat.mul_div_cancel _ hd, hd]

theorem divNearest_mono {num num' : Nat} (den : Nat) (h : num ≤ num') :
    divNearest num den ≤ divNearest num' den := by
  have hq : num / den ≤ num' / den := Nat.div_le_div_right h
  rcases Nat.lt_or_ge (num / den) (num' / den) with hlt | hge
  · exact Nat.le_trans (divNearest_le hlt) (le_divNearest _ _)
  · -- Equal quotients: the remainders are ordered, and so is the decision to go up.
    have hq' : num / den = num' / den := Nat.le_antisymm hq hge
    have hdiv := Nat.div_add_mod num den
    have hdiv' := Nat.div_add_mod num' den
    rw [← hq'] at hdiv'
    unfold divNearest
    dsimp only
    rw [← hq']
    split <;> split <;> omega

namespace Magnitude

/-! ## The gap -/

theorem gapExponent_mul (num den : Nat) {c : Nat} (hc : 0 < c) :
    gapExponent (num * c) (den * c) = gapExponent num den := by
  unfold gapExponent
  rw [Nat.mul_div_mul_right _ _ hc]

theorem gapExponent_mono {num num' : Nat} (den : Nat) (h : num ≤ num') :
    gapExponent num den ≤ gapExponent num' den := by
  have hq : num / den ≤ num' / den := Nat.div_le_div_right h
  have hlog : (num / den).log2 ≤ (num' / den).log2 := by
    by_cases h0 : num / den = 0
    · simp [h0]
    · have h0' : num' / den ≠ 0 :=
        Nat.pos_iff_ne_zero.1 (Nat.lt_of_lt_of_le (Nat.pos_of_ne_zero h0) hq)
      exact (Nat.le_log2 h0').2 (Nat.le_trans (Nat.log2_self_le h0) hq)
  unfold gapExponent
  omega

/-- A gap above one unit is at most `2^-52` of the quotient. -/
theorem gap_le {num den : Nat} (h : gapExponent num den ≠ 0) :
    den * 2 ^ (fractionBits + gapExponent num den) ≤ num := by
  have hlog : fractionBits + gapExponent num den = (num / den).log2 := by
    unfold gapExponent at h ⊢
    omega
  have h0 : num / den ≠ 0 := by
    intro h0
    simp [gapExponent, h0] at h
  rw [hlog]
  calc den * 2 ^ (num / den).log2 ≤ den * (num / den) :=
        Nat.mul_le_mul_left _ (Nat.log2_self_le h0)
    _ ≤ num := Nat.mul_div_le num den

theorem den_gap_pos (num : Nat) {den : Nat} (hd : 0 < den) : 0 < den * 2 ^ gapExponent num den :=
  Nat.mul_pos hd (Nat.two_pow_pos _)

/-! ## The nearest multiple of the gap -/

theorem nearestUnits_mul_den (num den : Nat) :
    nearestUnits num den * den =
      divNearest num (den * 2 ^ gapExponent num den) * (den * 2 ^ gapExponent num den) := by
  unfold nearestUnits
  dsimp only
  rw [Nat.mul_assoc, Nat.mul_comm den]

theorem nearestUnits_le (num den : Nat) :
    2 * (nearestUnits num den * den) ≤ 2 * num + den * 2 ^ gapExponent num den := by
  rw [nearestUnits_mul_den]
  exact two_mul_divNearest_le _ _

theorem le_nearestUnits (num : Nat) {den : Nat} (hd : 0 < den) :
    2 * num ≤ 2 * (nearestUnits num den * den) + den * 2 ^ gapExponent num den := by
  rw [nearestUnits_mul_den]
  exact le_two_mul_divNearest (den_gap_pos num hd)

theorem nearestUnits_mul (num den : Nat) {c : Nat} (hc : 0 < c) :
    nearestUnits (num * c) (den * c) = nearestUnits num den := by
  unfold nearestUnits
  dsimp only
  rw [gapExponent_mul num den hc, Nat.mul_right_comm, divNearest_mul _ _ hc]

/-- Only the quotient counts. -/
theorem nearestUnits_congr {num den num' den' : Nat} (hd : 0 < den) (hd' : 0 < den')
    (h : num * den' = num' * den) : nearestUnits num den = nearestUnits num' den' := by
  rw [← nearestUnits_mul num den hd', ← nearestUnits_mul num' den' hd, h, Nat.mul_comm den']

theorem nearestUnits_mono_num {num num' den : Nat} (hd : 0 < den) (h : num ≤ num') :
    nearestUnits num den ≤ nearestUnits num' den := by
  have hs := gapExponent_mono den h
  rcases Nat.lt_or_ge (gapExponent num den) (gapExponent num' den) with hlt | hge
  · -- A wider gap: everything below the binade stays at or below its first number.
    have hpos := den_gap_pos num' hd
    have hlow : 2 ^ fractionBits ≤ divNearest num' (den * 2 ^ gapExponent num' den) := by
      refine Nat.le_trans ((Nat.le_div_iff_mul_le hpos).2 ?_) (le_divNearest _ _)
      have hgap : den * 2 ^ (fractionBits + gapExponent num' den) ≤ num' := gap_le (by omega)
      rwa [Nat.pow_add, Nat.mul_left_comm] at hgap
    calc nearestUnits num den
        ≤ 2 ^ precision * 2 ^ gapExponent num den :=
          Nat.mul_le_mul_right _ (divNearest_gap_le num den)
      _ = 2 ^ fractionBits * 2 ^ (gapExponent num den + 1) := by
          rw [two_pow_precision, Nat.pow_succ]
          omega
      _ ≤ 2 ^ fractionBits * 2 ^ gapExponent num' den :=
          Nat.mul_le_mul_left _ (Nat.pow_le_pow_right (by decide) hlt)
      _ ≤ nearestUnits num' den := Nat.mul_le_mul_right _ hlow
  · have heq : gapExponent num den = gapExponent num' den := Nat.le_antisymm hs hge
    unfold nearestUnits
    dsimp only
    rw [heq]
    exact Nat.mul_le_mul_right _ (divNearest_mono _ h)

theorem nearestUnits_mono {num den num' den' : Nat} (hd : 0 < den) (hd' : 0 < den')
    (h : num * den' ≤ num' * den) : nearestUnits num den ≤ nearestUnits num' den' := by
  rw [← nearestUnits_mul num den hd', ← nearestUnits_mul num' den' hd, Nat.mul_comm den']
  exact nearestUnits_mono_num (Nat.mul_pos hd hd') h

/-- A number on the grid is its own rounding, also beyond the limit. -/
theorem nearestUnits_grid {y den : Nat} (hy : 2 ^ (y.log2 - fractionBits) ∣ y) (hd : 0 < den) :
    nearestUnits (y * den) den = y := by
  have h := nearestUnits_mul y 1 hd
  rw [Nat.one_mul] at h
  rw [h]
  unfold nearestUnits gapExponent
  dsimp only
  rw [Nat.div_one, Nat.one_mul]
  generalize y.log2 - fractionBits = s at hy ⊢
  obtain ⟨k, hk⟩ := hy
  rw [hk, Nat.mul_comm (2 ^ s), divNearest_mul_self k (Nat.two_pow_pos s)]

theorem log2_mul_two_pow {n : Nat} (hn : n ≠ 0) (k : Nat) : (n * 2 ^ k).log2 = n.log2 + k := by
  induction k with
  | zero => rw [Nat.pow_zero, Nat.mul_one, Nat.add_zero]
  | succ k ih =>
    have hpos : n * 2 ^ k ≠ 0 := Nat.mul_ne_zero hn (Nat.two_pow_pos k).ne'
    rw [Nat.pow_succ', Nat.mul_left_comm, Nat.log2_two_mul hpos, ih, Nat.add_assoc]

/-- The grid is closed under doubling. -/
theorem dvd_mul_two_pow {y : Nat} (k : Nat) (hy : 2 ^ (y.log2 - fractionBits) ∣ y) :
    2 ^ ((y * 2 ^ k).log2 - fractionBits) ∣ y * 2 ^ k := by
  by_cases h0 : y = 0
  · simp [h0]
  · have hlog := log2_mul_two_pow h0 k
    by_cases hs : y.log2 ≤ fractionBits
    · refine Nat.dvd_trans (Nat.pow_dvd_pow 2 ?_) (Nat.dvd_mul_left _ _)
      omega
    · have hsplit : (y * 2 ^ k).log2 - fractionBits = y.log2 - fractionBits + k := by omega
      rw [hsplit, Nat.pow_add]
      exact Nat.mul_dvd_mul_right hy _

/-- With at least 53 digits the gap grows with the number, so doubling commutes with rounding. -/
theorem nearestUnits_mul_two_pow {y : Nat} (hy : 2 ^ fractionBits ≤ y) (k : Nat) :
    nearestUnits (y * 2 ^ k) 1 = nearestUnits y 1 * 2 ^ k := by
  have h0 : y ≠ 0 := ((Nat.two_pow_pos _).trans_le hy).ne'
  have hgap : gapExponent (y * 2 ^ k) 1 = gapExponent y 1 + k := by
    have hlog : fractionBits ≤ y.log2 := (Nat.le_log2 h0).2 hy
    unfold gapExponent
    rw [Nat.div_one, Nat.div_one, log2_mul_two_pow h0]
    omega
  unfold nearestUnits
  dsimp only
  rw [hgap, Nat.pow_add, ← Nat.mul_assoc 1, divNearest_mul _ _ (Nat.two_pow_pos k), Nat.mul_assoc]

/-- Below the midpoint between the greatest magnitude and the limit the result is a magnitude. -/
theorem nearestUnits_lt_limit {num den : Nat}
    (h : num + den * 2 ^ (topGap - 1) < den * limit) : nearestUnits num den < limit := by
  have hexp : fractionBits + (topGap + 1) = precision + topGap := rfl
  have hlimit : 2 ^ (fractionBits + (topGap + 1)) = limit := by
    rw [hexp, Nat.pow_add, limit]
  have hgap : gapExponent num den ≤ topGap := by
    by_contra hlt
    have hle : den * 2 ^ (fractionBits + gapExponent num den) ≤ num := gap_le (by omega)
    have hpow : limit ≤ 2 ^ (fractionBits + gapExponent num den) := by
      rw [← hlimit]
      exact Nat.pow_le_pow_right (by decide) (by omega)
    have := Nat.mul_le_mul_left den hpow
    omega
  have hpow : den * 2 ^ gapExponent num den ≤ 2 * (den * 2 ^ (topGap - 1)) := by
    rw [Nat.mul_left_comm, ← Nat.pow_add_one']
    exact Nat.mul_le_mul_left _ (Nat.pow_le_pow_right (by decide) hgap)
  have hle := nearestUnits_le num den
  have hlt : den * nearestUnits num den < den * limit := by
    rw [Nat.mul_comm den (nearestUnits num den)]
    omega
  exact Nat.lt_of_mul_lt_mul_left hlt

/-- At the midpoint the tie goes to the even neighbour, which is the limit. -/
theorem nearestUnits_midpoint :
    nearestUnits (2 ^ (topGap - 1) * (2 ^ (precision + 1) - 1)) 1 = limit := by decide +kernel

theorem limit_le_nearestUnits {num den : Nat} (hd : 0 < den)
    (h : den * limit ≤ num + den * 2 ^ (topGap - 1)) : limit ≤ nearestUnits num den := by
  have hlimit : limit = 2 ^ (topGap - 1) * 2 ^ (precision + 1) := by
    have hexp : precision + topGap = topGap - 1 + (precision + 1) := rfl
    rw [limit, ← Nat.pow_add, ← Nat.pow_add, hexp]
  rw [← nearestUnits_midpoint]
  refine nearestUnits_mono Nat.one_pos hd ?_
  rw [Nat.mul_sub, Nat.mul_one, ← hlimit, Nat.mul_one, Nat.sub_mul, Nat.sub_le_iff_le_add,
    Nat.mul_comm limit, Nat.mul_comm _ den]
  exact h

/-- Dividing a magnitude by a power of two is exact as long as the gap is above one unit. -/
theorem nearestUnits_div_exact (a : Magnitude) (k : Nat)
    (h : gapExponent a.units (2 ^ k) ≠ 0) : nearestUnits a.units (2 ^ k) * 2 ^ k = a.units := by
  have hlog : (a.units / 2 ^ k).log2 = a.units.log2 - k := by
    rw [Nat.log2_eq_log_two, Nat.log2_eq_log_two, Nat.log_div_base_pow]
  have hgap : k + gapExponent a.units (2 ^ k) = a.units.log2 - fractionBits := by
    unfold gapExponent at h ⊢
    omega
  have hdvd : 2 ^ k * 2 ^ gapExponent a.units (2 ^ k) ∣ a.units := by
    rw [← Nat.pow_add, hgap]
    exact a.exact
  obtain ⟨q, hq⟩ := hdvd
  have hpos := den_gap_pos a.units (Nat.two_pow_pos k)
  rw [nearestUnits_mul_den]
  generalize 2 ^ k * 2 ^ gapExponent a.units (2 ^ k) = d at hq hpos ⊢
  rw [hq, Nat.mul_comm d, divNearest_mul_self q hpos]

/-- Dividing a magnitude by a power of two is off by at most half a unit. -/
theorem nearestUnits_div_two_pow (a : Magnitude) (k : Nat) :
    2 * (nearestUnits a.units (2 ^ k) * 2 ^ k) ≤ 2 * a.units + 2 ^ k ∧
      2 * a.units ≤ 2 * (nearestUnits a.units (2 ^ k) * 2 ^ k) + 2 ^ k := by
  by_cases h : gapExponent a.units (2 ^ k) = 0
  · have hup := nearestUnits_le a.units (2 ^ k)
    have hlow := le_nearestUnits a.units (Nat.two_pow_pos k)
    rw [h, Nat.pow_zero, Nat.mul_one] at hup hlow
    exact ⟨hup, hlow⟩
  · rw [nearestUnits_div_exact a k h]
    exact ⟨Nat.le_add_right _ _, Nat.le_add_right _ _⟩

end Magnitude

end CutAndChoose
