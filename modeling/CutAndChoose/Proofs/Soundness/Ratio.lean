import Mathlib
import CutAndChoose.Soundness.Ratio
import CutAndChoose.Proofs.Binary64.Near

/-!
# CutAndChoose.Proofs.Soundness.Ratio

The quotient of two natural numbers is near the exact one at any operand size (`ratio_near`), and a
quotient of at most one never fails and never exceeds one (`ratio_of_le`, `ratio_le_one`).

* `topBits_spec`: an operand is cut to its top 1000 bits and rounded once.
* `exact_scale`, `halved_scale`: scaling by a power of two is exact upwards, and off by at most one
  unit downwards, however many steps it takes.
* `quotient_spec`: the quotient of two operands before it is scaled is a normal number.
* `le_of_ratio_eq_none`, `lt_of_ratio_eq_some`: from which exact quotients on there is none.
* `ratio_error`: the same as bounds on the error, for operands of any size.
-/

namespace CutAndChoose

open Magnitude (unit unit_pos unitPlaces)

/-! ## Cutting an operand -/

theorem lt_two_pow_bitLength (a : Nat) : a < 2 ^ bitLength a := by
  unfold bitLength
  split
  · rename_i h
    simp [h]
  · exact Nat.lt_log2_self

theorem bitLength_mono {a b : Nat} (h : a ≤ b) : bitLength a ≤ bitLength b := by
  unfold bitLength
  by_cases ha : a = 0
  · simp [ha]
  · have hb : b ≠ 0 := by omega
    have hlog : a.log2 ≤ b.log2 := (Nat.le_log2 hb).2 ((Nat.log2_self_le ha).trans h)
    rw [if_neg ha, if_neg hb]
    omega

theorem cutBits_mono {a b : Nat} (h : a ≤ b) : cutBits a ≤ cutBits b :=
  Nat.sub_le_sub_right (bitLength_mono h) _

theorem div_cutBits_lt (a : Nat) : a / 2 ^ cutBits a < 2 ^ operandBits := by
  rw [Nat.div_lt_iff_lt_mul (Nat.two_pow_pos _), ← Nat.pow_add]
  refine (lt_two_pow_bitLength a).trans_le (Nat.pow_le_pow_right (by decide) ?_)
  unfold cutBits
  omega

theorem le_div_cutBits {a : Nat} (h : cutBits a ≠ 0) :
    2 ^ (operandBits - 1) ≤ a / 2 ^ cutBits a := by
  have ha : a ≠ 0 := by
    rintro rfl
    simp [cutBits, bitLength] at h
  have hlog : operandBits - 1 + cutBits a = a.log2 := by
    have hbits : operandBits = 1000 := rfl
    unfold cutBits bitLength at h ⊢
    rw [if_neg ha] at h ⊢
    omega
  rw [Nat.le_div_iff_mul_le (Nat.two_pow_pos _), ← Nat.pow_add, hlog]
  exact Nat.log2_self_le ha

theorem div_cutBits_pos {a : Nat} (ha : a ≠ 0) : 0 < a / 2 ^ cutBits a := by
  by_cases h : cutBits a = 0
  · rw [h, Nat.pow_zero, Nat.div_one]
    exact Nat.pos_of_ne_zero ha
  · exact (Nat.two_pow_pos _).trans_le (le_div_cutBits h)

theorem one_le_div_cutBits {a : Nat} (ha : a ≠ 0) : (1 : ℚ) ≤ a / 2 ^ cutBits a := by
  have hle := @Nat.cast_div_le ℚ _ _ _ a (2 ^ cutBits a)
  have hpos : (1 : ℚ) ≤ (a / 2 ^ cutBits a : ℕ) := by exact_mod_cast div_cutBits_pos ha
  rw [Nat.cast_pow, Nat.cast_ofNat] at hle
  exact hpos.trans hle

/-- Cutting an operand is off by less than a rounding. -/
theorem near_cut (a : Nat) : Near 1 0 ((a : ℚ) / 2 ^ cutBits a) (a / 2 ^ cutBits a : ℕ) := by
  have hpos : (0 : ℚ) < 2 ^ cutBits a := pow_pos two_pos _
  refine Near.of_relative (div_nonneg (Nat.cast_nonneg _) hpos.le) ?_
  by_cases h : cutBits a = 0
  · have ha : (0 : ℚ) ≤ a / 2 ^ 53 := div_nonneg (Nat.cast_nonneg _) (by norm_num)
    simpa [h] using ha
  · have hlow : (a / 2 ^ cutBits a : ℕ) ≤ (a : ℚ) / 2 ^ cutBits a := by
      have := @Nat.cast_div_le ℚ _ _ _ a (2 ^ cutBits a)
      push_cast at this
      exact this
    have hhigh : (a : ℚ) / 2 ^ cutBits a < (a / 2 ^ cutBits a : ℕ) + 1 := by
      rw [div_lt_iff₀ hpos]
      exact_mod_cast Nat.lt_mul_of_div_lt (Nat.lt_succ_self _) (Nat.two_pow_pos _)
    have hsize : (2 : ℚ) ^ 53 ≤ (a / 2 ^ cutBits a : ℕ) := by
      have hpow : 2 ^ 53 ≤ 2 ^ (operandBits - 1) := Nat.pow_le_pow_right (by decide) (by decide)
      exact_mod_cast hpow.trans (le_div_cutBits h)
    rw [abs_le]
    constructor <;> linarith

/-- The top bits of an operand: a number between one and `2^1000`, or zero for zero. -/
theorem topBits_spec (a : Nat) :
    ∃ t, topBits a = .finite false t ∧ Near 2 0 ((a : ℚ) / 2 ^ cutBits a) t.value ∧
      (a ≠ 0 → 1 ≤ t.value) ∧ t.value ≤ 2 ^ operandBits := by
  obtain ⟨p, -, hp⟩ := @Binary64.twoPow_finite operandBits (by decide) (by decide)
  have hp' : p.value = 2 ^ operandBits := by rw [hp, zpow_natCast]
  have hlt : ((a / 2 ^ cutBits a : ℕ) : ℚ) ≤ p.value := by
    have h := (Nat.cast_le (α := ℚ)).2 (div_cutBits_lt a).le
    rwa [Nat.cast_pow, Nat.cast_ofNat, ← hp'] at h
  obtain ⟨t, ht, hle⟩ := Binary64.nearest_le (Nat.cast_nonneg _) hlt
  rw [← Binary64.ofNat_eq_nearest] at ht
  refine ⟨t, ht, ?_, ?_, hp' ▸ hle⟩
  · by_cases ha : a = 0
    · subst ha
      rw [Nat.zero_div, Binary64.ofNat_eq_nearest, Nat.cast_zero, Binary64.nearest_zero] at ht
      cases ht
      have hzero : Magnitude.zero.value = 0 := Binary64.value_zero
      rw [Nat.cast_zero, zero_div, hzero]
      exact (Near.refl 0).weaken le_rfl le_rfl (by decide) le_rfl
    · have hround := (Binary64.near_ofNat (div_cutBits_pos ha).ne' ht).1
      simpa using (near_cut a).trans le_rfl le_rfl hround
  · intro ha
    exact (Binary64.near_ofNat (div_cutBits_pos ha).ne' ht).2

/-! ## Scaling by powers of two -/

namespace Binary64

/-- The number `v`, or infinity in its place when `v` is beyond the limit. -/
def Exact (v : ℚ) (y : Binary64) : Prop :=
  (y = infinite false ∧ 2 ^ 1024 ≤ v) ∨ ∃ b, y = finite false b ∧ b.value = v

theorem exact_mul_twoPow {v : ℚ} {y : Binary64} {k : ℕ} (hk : k < 1024) (h : Exact v y) :
    Exact (v * 2 ^ k) (y * twoPow k) := by
  obtain ⟨p, hp, hpv⟩ := @twoPow_finite k (by omega) (by omega)
  rw [zpow_natCast] at hpv
  rw [hp]
  rcases h with ⟨rfl, hlarge⟩ | ⟨b, rfl, rfl⟩
  · left
    have hunits : p.units ≠ 0 := by
      have hpos : 0 < p.value := hpv ▸ pow_pos two_pos k
      exact (Magnitude.value_pos_iff.1 hpos).ne'
    constructor
    · show mul _ _ = _
      simp [mul, hunits]
    · have hv : 0 ≤ v := (pow_pos two_pos 1024).le.trans hlarge
      exact hlarge.trans (le_mul_of_one_le_right hv (one_le_pow₀ one_le_two))
  · have hgrid : b.value * p.value = (b.units * 2 ^ k : ℕ) * unit := by
      rw [hpv, Magnitude.value]
      push_cast
      ring
    have hdvd := Magnitude.dvd_mul_two_pow k b.exact
    rw [finite_mul, hgrid]
    rcases nearest_cases ((b.units * 2 ^ k : ℕ) * unit) with ⟨c, hc⟩ | ⟨hinf, -⟩
    · refine .inr ⟨c, hc, ?_⟩
      rw [Magnitude.value, units_of_nearest_grid hdvd hc, ← hgrid, hpv]
    · refine .inl ⟨hinf, ?_⟩
      rw [← hpv, hgrid, ← Magnitude.limit_mul_unit]
      exact mul_le_mul_of_nonneg_right
        (Nat.cast_le.2 (limit_le_of_nearest_grid hdvd hinf)) unit_pos.le

theorem exact_repeat_mul {v : ℚ} {y : Binary64} (n : ℕ) (h : Exact v y) :
    Exact (v * 2 ^ (maxShift * n)) (Nat.repeat (· * twoPow maxShift) n y) := by
  induction n with
  | zero => simpa [Nat.repeat] using h
  | succ n ih =>
    rw [Nat.repeat, Nat.mul_succ, pow_add, ← mul_assoc]
    exact exact_mul_twoPow (by decide) ih

theorem exact_scale {v : ℚ} {y : Binary64} (k : ℕ) (h : Exact v y) :
    Exact (v * 2 ^ k) (y.scale k) := by
  have hrest : k % maxShift < 1024 := (Nat.mod_lt k (by decide)).trans (by decide)
  have hsplit : (2 : ℚ) ^ k = 2 ^ (maxShift * (k / maxShift)) * 2 ^ (k % maxShift) := by
    rw [← pow_add, Nat.div_add_mod]
  have hneg : ¬ (k : ℤ) < 0 := by omega
  unfold scale
  simp only [hneg, if_false, Int.natAbs_natCast]
  rw [hsplit, ← mul_assoc]
  exact exact_mul_twoPow hrest (exact_repeat_mul _ h)

/-- The number `v` divided by `2 ^ k`, off by less than a unit. The part of the unit that is left
makes the bound survive any further division. -/
def Halved (v : ℚ) (k : ℕ) (y : Binary64) : Prop :=
  ∃ b, y = finite false b ∧ |b.value - v / 2 ^ k| ≤ unit * (1 - 1 / 2 ^ k)

theorem halved_zero (a : Magnitude) : Halved a.value 0 (finite false a) :=
  ⟨a, rfl, by simp⟩

theorem halved_of_magnitude (a : Magnitude) (k : ℕ) :
    Halved a.value k (nearest (a.value / 2 ^ k)) := by
  cases k with
  | zero =>
    rw [pow_zero, div_one, nearest_value]
    exact halved_zero a
  | succ k =>
    obtain ⟨b, hb, herror⟩ := nearest_div_two_pow a (k + 1)
    refine ⟨b, hb, herror.trans ?_⟩
    have hhalf : (1 : ℚ) / 2 ^ (k + 1) ≤ 1 / 2 := by
      rw [pow_succ]
      exact one_div_le_one_div_of_le two_pos
        (le_mul_of_one_le_left two_pos.le (one_le_pow₀ one_le_two))
    have := mul_le_mul_of_nonneg_left hhalf unit_pos.le
    linarith

theorem halved_mul_twoPow {v : ℚ} {y : Binary64} {j k : ℕ} (hk : k ≤ unitPlaces)
    (h : Halved v j y) : Halved v (j + k) (y * twoPow (-k)) := by
  obtain ⟨b, rfl, hb⟩ := h
  obtain ⟨p, hp, hpv⟩ := @twoPow_finite (-k) (by omega) (by omega)
  have hquot : b.value * p.value = b.value / 2 ^ k := by
    rw [hpv, zpow_neg, zpow_natCast, div_eq_mul_inv]
  obtain ⟨c, hc, hce⟩ := halved_of_magnitude b k
  refine ⟨c, ?_, ?_⟩
  · rw [hp, finite_mul, hquot, hc]
  · have hpos : (0 : ℚ) < 2 ^ k := pow_pos two_pos k
    have hsplit : v / 2 ^ (j + k) = v / 2 ^ j / 2 ^ k := by rw [pow_add, div_div]
    have hstep : |b.value / 2 ^ k - v / 2 ^ j / 2 ^ k| ≤ unit * (1 - 1 / 2 ^ j) / 2 ^ k := by
      rw [← sub_div, abs_div, abs_of_pos hpos]
      exact div_le_div_of_nonneg_right hb hpos.le
    have hsum := (abs_sub_le c.value (b.value / 2 ^ k) (v / 2 ^ (j + k))).trans
      (add_le_add hce (hsplit ▸ hstep))
    refine hsum.trans (le_of_eq ?_)
    rw [pow_add]
    field_simp
    ring

theorem halved_repeat_mul {v : ℚ} {y : Binary64} {j : ℕ} (n : ℕ) (h : Halved v j y) :
    Halved v (j + maxShift * n) (Nat.repeat (· * twoPow (-maxShift)) n y) := by
  induction n with
  | zero => simpa [Nat.repeat] using h
  | succ n ih =>
    rw [Nat.repeat, Nat.mul_succ, ← Nat.add_assoc]
    exact halved_mul_twoPow (by decide) ih

theorem halved_scale (a : Magnitude) (k : ℕ) : Halved a.value k ((finite false a).scale (-k)) := by
  have hrest : k % maxShift ≤ unitPlaces := (Nat.mod_lt k (by decide)).le.trans (by decide)
  have hsteps := halved_mul_twoPow hrest (halved_repeat_mul (k / maxShift) (halved_zero a))
  rw [Nat.zero_add, Nat.div_add_mod] at hsteps
  unfold scale
  rw [Int.natAbs_neg, Int.natAbs_natCast]
  by_cases hk : k = 0
  · subst hk
    simpa [Nat.repeat] using hsteps
  · have hneg : -(k : ℤ) < 0 := by omega
    simp only [hneg, if_true]
    exact hsteps

end Binary64

/-! ## The quotient -/

/-- The quotient of the top bits, before it is scaled. -/
theorem quotient_spec (numer : Nat) {denom : Nat} (hd : denom ≠ 0) :
    ∃ q, topBits numer / topBits denom = .finite false q ∧
      Near 5 0 ((numer : ℚ) / 2 ^ cutBits numer / (denom / 2 ^ cutBits denom)) q.value := by
  obtain ⟨s, hs, hsnear, hspos, hsle⟩ := topBits_spec numer
  obtain ⟨t, ht, htnear, htpos, htle⟩ := topBits_spec denom
  have ht1 := htpos hd
  have htunits : t.units ≠ 0 :=
    (Magnitude.value_pos_iff.1 (lt_of_lt_of_le one_pos ht1)).ne'
  obtain ⟨q, hq, -⟩ := Binary64.nearest_le (div_nonneg s.value_nonneg t.value_nonneg)
    (div_le_self s.value_nonneg ht1)
  refine ⟨q, by rw [hs, ht, Binary64.finite_div s htunits, hq], ?_⟩
  have hx : (0 : ℚ) ≤ numer / 2 ^ cutBits numer :=
    div_nonneg (Nat.cast_nonneg _) (pow_pos two_pos _).le
  have hquot := hsnear.div le_rfl hx s.value_nonneg (one_le_div_cutBits hd) ht1 htnear
  by_cases hn : numer = 0
  · subst hn
    have hs0 : s.value = 0 := by
      rw [Nat.cast_zero, zero_div] at hsnear
      exact hsnear.eq_zero s.value_nonneg
    rw [hs0, zero_div, Binary64.nearest_zero] at hq
    cases hq
    have hzero : Magnitude.zero.value = 0 := Binary64.value_zero
    rw [Nat.cast_zero, zero_div, zero_div, hzero]
    exact (Near.refl 0).weaken le_rfl le_rfl (Nat.zero_le 5) le_rfl
  · have hnormal : (2 : ℚ) ^ (-1022 : ℤ) ≤ s.value / t.value := by
      have hinv : (2 : ℚ) ^ (-operandBits : ℤ) ≤ 1 / t.value := by
        rw [zpow_neg, zpow_natCast, ← one_div]
        exact one_div_le_one_div_of_le (lt_of_lt_of_le one_pos ht1) htle
      refine (zpow_le_zpow_right₀ one_le_two (by decide)).trans (hinv.trans ?_)
      exact div_le_div_of_nonneg_right (hspos hn) t.value_nonneg
    have hround := Binary64.near_nearest_normal hnormal hq
    simpa using hquot.trans le_rfl le_rfl hround

section Cuts

variable {a b : ℚ} {j k : ℕ}

/-- Scaling by the difference of the cuts gives back the quotient of the whole operands. -/
theorem cut_div_two_pow (hb : b ≠ 0) (h : j ≤ k) :
    a / 2 ^ j / (b / 2 ^ k) / 2 ^ (k - j) = a / b := by
  have hsplit : (2 : ℚ) ^ k = 2 ^ j * 2 ^ (k - j) := by rw [← pow_add, Nat.add_sub_cancel' h]
  rw [hsplit]
  field_simp

theorem cut_mul_two_pow (hb : b ≠ 0) (h : j ≤ k) :
    a / 2 ^ k / (b / 2 ^ j) * 2 ^ (k - j) = a / b := by
  have hsplit : (2 : ℚ) ^ k = 2 ^ j * 2 ^ (k - j) := by rw [← pow_add, Nat.add_sub_cancel' h]
  rw [hsplit]
  field_simp

end Cuts

theorem ratio_eq {numer denom : Nat} (hd : denom ≠ 0) {y : Binary64}
    (hy : (topBits numer / topBits denom).scale (cutBits numer - cutBits denom : Int) = y) :
    ratio numer denom = if y.isFinite then some y else none := by
  subst hy
  rw [ratio, if_neg hd]

/-- Where the denominator loses at least as many bits, the quotient is scaled down: it is finite. -/
theorem ratio_scaled_down {numer denom : Nat} (hd : denom ≠ 0)
    (hcut : cutBits numer ≤ cutBits denom) {q : Magnitude}
    (hq : topBits numer / topBits denom = .finite false q) :
    ∃ a, ratio numer denom = some (.finite false a) ∧
      |a.value - q.value / 2 ^ (cutBits denom - cutBits numer)| ≤
        unit * (1 - 1 / 2 ^ (cutBits denom - cutBits numer)) := by
  obtain ⟨a, ha, herror⟩ := Binary64.halved_scale q (cutBits denom - cutBits numer)
  have hexp : (cutBits numer - cutBits denom : Int) = -(cutBits denom - cutBits numer : ℕ) := by
    omega
  rw [← hq, ← hexp] at ha
  exact ⟨a, by rw [ratio_eq hd ha]; rfl, herror⟩

theorem ratio_of_cutBits_le {numer denom : Nat} (hd : denom ≠ 0)
    (hcut : cutBits numer ≤ cutBits denom) :
    ∃ a, ratio numer denom = some (.finite false a) ∧ Near 5 unit (numer / denom) a.value := by
  obtain ⟨q, hq, hqnear⟩ := quotient_spec numer hd
  obtain ⟨a, ha, herror⟩ := ratio_scaled_down hd hcut hq
  have hpos : (0 : ℚ) < 2 ^ (cutBits denom - cutBits numer) := pow_pos two_pos _
  have hscaled := hqnear.mul_right (inv_nonneg.2 hpos.le)
  rw [zero_mul, ← div_eq_mul_inv, ← div_eq_mul_inv,
    cut_div_two_pow (Nat.cast_ne_zero.2 hd) hcut] at hscaled
  have hslack : |a.value - q.value / 2 ^ (cutBits denom - cutBits numer)| ≤ unit := by
    refine herror.trans (mul_le_of_le_one_right unit_pos.le ?_)
    have := one_div_pos.2 hpos
    linarith
  refine ⟨a, ha, ?_⟩
  simpa using hscaled.trans le_rfl unit_pos.le (Near.of_abs_sub_le hslack)

/-- Where the numerator loses at least as many bits, the quotient is scaled up: exactly, or beyond
the limit. -/
theorem ratio_of_le_cutBits {numer denom : Nat} (hd : denom ≠ 0)
    (hcut : cutBits denom ≤ cutBits numer) :
    ∃ v, Near 5 0 (numer / denom) v ∧
      ((ratio numer denom = none ∧ 2 ^ 1024 ≤ v) ∨
        ∃ a, ratio numer denom = some (.finite false a) ∧ a.value = v) := by
  obtain ⟨q, hq, hqnear⟩ := quotient_spec numer hd
  have hexp : (cutBits numer - cutBits denom : Int) = (cutBits numer - cutBits denom : ℕ) := by
    omega
  have hexact := Binary64.exact_scale (cutBits numer - cutBits denom) (.inr ⟨q, rfl, rfl⟩)
  rw [← hq, ← hexp] at hexact
  have hscaled := hqnear.mul_right (pow_pos two_pos (cutBits numer - cutBits denom)).le
  rw [zero_mul, cut_mul_two_pow (Nat.cast_ne_zero.2 hd) hcut] at hscaled
  refine ⟨_, hscaled, ?_⟩
  rcases hexact with ⟨hinf, hlarge⟩ | ⟨a, ha, hval⟩
  · exact .inl ⟨by rw [ratio_eq hd hinf]; rfl, hlarge⟩
  · exact .inr ⟨a, by rw [ratio_eq hd ha]; rfl, hval⟩

/-- Whatever the sizes of the operands, a quotient that is given is near the exact one. -/
theorem ratio_near {numer denom : Nat} (hd : denom ≠ 0) {y : Binary64}
    (hy : ratio numer denom = some y) :
    ∃ a, y = .finite false a ∧ Near 5 unit (numer / denom) a.value := by
  rcases Nat.le_total (cutBits numer) (cutBits denom) with h | h
  · obtain ⟨a, ha, hnear⟩ := ratio_of_cutBits_le hd h
    rw [ha] at hy
    cases hy
    exact ⟨a, rfl, hnear⟩
  · obtain ⟨v, hnear, ⟨hnone, -⟩ | ⟨a, ha, rfl⟩⟩ := ratio_of_le_cutBits hd h
    · rw [hnone] at hy
      cases hy
    · rw [ha] at hy
      cases hy
      refine ⟨a, rfl, hnear.weaken ?_ a.value_nonneg le_rfl unit_pos.le⟩
      exact div_nonneg (Nat.cast_nonneg _) (Nat.cast_nonneg _)

/-- Only a quotient near the limit or beyond it is not given. -/
theorem le_of_ratio_eq_none {numer denom : Nat} (hd : denom ≠ 0)
    (h : ratio numer denom = none) : 2 ^ 1024 * keep ^ 5 ≤ (numer / denom : ℚ) := by
  rcases Nat.le_total (cutBits numer) (cutBits denom) with hcut | hcut
  · obtain ⟨a, ha, -⟩ := ratio_of_cutBits_le hd hcut
    rw [ha] at h
    cases h
  · obtain ⟨v, hnear, ⟨-, hlarge⟩ | ⟨a, ha, -⟩⟩ := ratio_of_le_cutBits hd hcut
    · calc 2 ^ 1024 * keep ^ 5 ≤ v * keep ^ 5 :=
            mul_le_mul_of_nonneg_right hlarge (keep_pow_pos 5).le
        _ ≤ numer / denom + 0 := hnear.above
        _ = numer / denom := add_zero _
    · rw [ha] at h
      cases h

/-- A quotient that is given lies below the limit, up to the roundings. -/
theorem lt_of_ratio_eq_some {numer denom : Nat} (hd : denom ≠ 0) {y : Binary64}
    (h : ratio numer denom = some y) : (numer / denom : ℚ) * keep ^ 5 < 2 ^ 1024 + unit := by
  obtain ⟨a, -, hnear⟩ := ratio_near hd h
  exact hnear.below.trans_lt (add_lt_add_left a.value_lt_limit unit)

/-- A quotient of at most one is always given. -/
theorem ratio_of_le {numer denom : Nat} (hd : denom ≠ 0) (h : numer ≤ denom) :
    ∃ a, ratio numer denom = some (.finite false a) ∧ Near 5 unit (numer / denom) a.value :=
  ratio_of_cutBits_le hd (cutBits_mono h)

/-! ## Quotients of at most one -/

namespace Binary64

theorem div_le_two_pow {s t q : Magnitude} {e : ℕ} (he : e < 1024) (ht : 0 < t.value)
    (h : s.value ≤ 2 ^ e * t.value) (hq : finite false s / finite false t = finite false q) :
    q.value ≤ 2 ^ e := by
  obtain ⟨p, -, hp⟩ := @twoPow_finite e (by omega) (by omega)
  rw [zpow_natCast] at hp
  rw [finite_div s (Magnitude.value_pos_iff.1 ht).ne'] at hq
  rw [← hp] at h ⊢
  exact value_le_of_nearest (div_nonneg s.value_nonneg t.value_nonneg) ((div_le_iff₀ ht).2 h) hq
    (nearest_value p)

/-- What exceeds one by less than a unit does not exceed it. -/
theorem value_le_one_of_lt {a : Magnitude} (h : a.value < 1 + unit) : a.value ≤ 1 := by
  obtain ⟨u, -, hu⟩ := one_eq
  rw [← hu] at h ⊢
  have hsucc : (a.units : ℚ) * unit < (u.units + 1) * unit := by
    rwa [add_one_mul]
  have hunits : (a.units : ℚ) < (u.units + 1 : ℕ) := by
    rw [Nat.cast_succ]
    exact lt_of_mul_lt_mul_right hsucc unit_pos.le
  exact Magnitude.value_le_iff.2 (Nat.lt_succ_iff.1 (Nat.cast_lt.1 hunits))

end Binary64

/-- Operands that are cut alike keep their order. -/
theorem topBits_le {a b : Nat} {s t : Magnitude} (h : a ≤ b) (hcut : cutBits a = cutBits b)
    (hs : topBits a = .finite false s) (ht : topBits b = .finite false t) : s.value ≤ t.value := by
  have hdiv : ((a / 2 ^ cutBits a : ℕ) : ℚ) ≤ (b / 2 ^ cutBits b : ℕ) := by
    rw [hcut]
    exact_mod_cast Nat.div_le_div_right h
  rw [topBits, Binary64.ofNat_eq_nearest] at hs ht
  exact Binary64.value_le_of_nearest (Nat.cast_nonneg _) hdiv hs ht

theorem two_pow_le_topBits {a : Nat} {t : Magnitude} (hcut : cutBits a ≠ 0)
    (ht : topBits a = .finite false t) : 2 ^ (operandBits - 1) ≤ t.value := by
  obtain ⟨p, -, hp⟩ := @Binary64.twoPow_finite (operandBits - 1 : ℕ) (by decide) (by decide)
  rw [zpow_natCast] at hp
  rw [topBits, Binary64.ofNat_eq_nearest] at ht
  rw [← hp]
  refine Binary64.le_of_nearest ?_ ht
  rw [hp]
  exact_mod_cast le_div_cutBits hcut

/-- Before it is scaled down, a quotient of at most one is at most the power it is divided by. -/
theorem quotient_le {numer denom : Nat} {q : Magnitude} (hd : denom ≠ 0) (h : numer ≤ denom)
    (hq : topBits numer / topBits denom = .finite false q) :
    q.value ≤ 2 ^ (cutBits denom - cutBits numer) := by
  obtain ⟨s, hs, -, -, hsle⟩ := topBits_spec numer
  obtain ⟨t, ht, -, htpos, -⟩ := topBits_spec denom
  have ht0 : 0 < t.value := one_pos.trans_le (htpos hd)
  rw [hs, ht] at hq
  rcases Nat.eq_or_lt_of_le (cutBits_mono h) with heq | hlt
  · have hst := topBits_le h heq hs ht
    rw [heq, Nat.sub_self]
    exact Binary64.div_le_two_pow (by decide) ht0 (by rwa [pow_zero, one_mul]) hq
  · -- The denominator is cut to 1000 digits, and the numerator has no more of them.
    have hlarge := two_pow_le_topBits (Nat.ne_zero_of_lt hlt) ht
    have hdouble : s.value ≤ 2 ^ 1 * t.value := by
      have hsplit : (2 : ℚ) ^ operandBits = 2 ^ 1 * 2 ^ (operandBits - 1) := by
        rw [← pow_add]
        rfl
      rw [hsplit] at hsle
      linarith
    have hone : 1 ≤ cutBits denom - cutBits numer := Nat.sub_pos_of_lt hlt
    exact (Binary64.div_le_two_pow (by decide) ht0 hdouble hq).trans
      (pow_le_pow_right₀ one_le_two hone)

/-- However the two operands are cut, their quotient is at most one if the exact one is. -/
theorem ratio_le_one {numer denom : Nat} (hd : denom ≠ 0) (h : numer ≤ denom) :
    ∃ a, ratio numer denom = some (.finite false a) ∧ a.value ≤ 1 := by
  obtain ⟨q, hq, -⟩ := quotient_spec numer hd
  obtain ⟨a, ha, herror⟩ := ratio_scaled_down hd (cutBits_mono h) hq
  refine ⟨a, ha, Binary64.value_le_one_of_lt ?_⟩
  have hpos : (0 : ℚ) < 2 ^ (cutBits denom - cutBits numer) := pow_pos two_pos _
  have hquot : q.value / 2 ^ (cutBits denom - cutBits numer) ≤ 1 :=
    (div_le_one hpos).2 (quotient_le hd h hq)
  have hslack : unit * (1 - 1 / 2 ^ (cutBits denom - cutBits numer)) < unit := by
    have hinv := mul_pos unit_pos (one_div_pos.2 hpos)
    rw [mul_sub, mul_one]
    linarith
  have habove := (abs_le.1 herror).2
  linarith

/-! ## Quotients of any size -/

/-- A number by a relative `2^-50` beyond the limit stays beyond it after five roundings. -/
theorem le_mul_keep_of_le {x : ℚ} (h : 2 ^ 1024 * (1 + 1 / 2 ^ 50) ≤ x) :
    2 ^ 1024 + unit ≤ x * keep ^ 5 := by
  have hunit : unit ≤ 2 ^ 1024 / 2 ^ 53 := by
    calc unit ≤ 1 := inv_le_one_of_one_le₀ (one_le_pow₀ one_le_two)
      _ ≤ 2 ^ 1024 / 2 ^ 53 :=
        (one_le_div₀ (by positivity)).2 (pow_le_pow_right₀ one_le_two (by decide))
  have hlimit : (0 : ℚ) < 2 ^ 1024 := pow_pos two_pos 1024
  generalize (2 : ℚ) ^ 1024 = limit at h hunit hlimit ⊢
  have hx : 0 ≤ x := (mul_nonneg hlimit.le (by norm_num)).trans h
  have hkeep := mul_le_mul_of_nonneg_left (one_sub_le_keep_pow 5) hx
  norm_num at h hunit hkeep
  linarith

/-- A quotient that is given is off by at most a relative `2^-50` and two units. It is not given
only for a zero denominator, or from the limit on up to the same relative error; well beyond the
limit it never is. -/
theorem ratio_error (numer denom : ℕ) :
    ratio numer 0 = none ∧
      (denom ≠ 0 →
        (∀ y, ratio numer denom = some y →
          ∃ a, y = .finite false a ∧
            |a.value - numer / denom| ≤ numer / denom / 2 ^ 50 + 1 / 2 ^ 1073) ∧
        (ratio numer denom = none → 2 ^ 1024 * (1 - 1 / 2 ^ 50) ≤ (numer / denom : ℚ)) ∧
        (2 ^ 1024 * (1 + 1 / 2 ^ 50) ≤ (numer / denom : ℚ) → ratio numer denom = none)) := by
  refine ⟨rfl, fun hd => ⟨?_, ?_, ?_⟩⟩
  · intro y hy
    have hx : (0 : ℚ) ≤ numer / denom := div_nonneg (Nat.cast_nonneg _) (Nat.cast_nonneg _)
    obtain ⟨a, ha, hnear⟩ := ratio_near hd hy
    have hunit : 2 * unit = 1 / 2 ^ 1073 := by
      rw [unit, pow_succ _ 1073, mul_inv, mul_comm 2, inv_mul_cancel_right₀ two_ne_zero, one_div]
    have herror := hnear.abs_sub_le hx unit_pos.le le_rfl
    rw [hunit] at herror
    exact ⟨a, ha, herror⟩
  · intro h
    have hkeep := one_sub_le_keep_pow 5
    refine le_trans (mul_le_mul_of_nonneg_left ?_ (pow_pos two_pos 1024).le)
      (le_of_ratio_eq_none hd h)
    norm_num at hkeep ⊢
    linarith
  · intro h
    cases hy : ratio numer denom with
    | none => rfl
    | some y =>
      exact absurd (lt_of_ratio_eq_some hd hy) (not_lt.2 (le_mul_keep_of_le h))

end CutAndChoose
