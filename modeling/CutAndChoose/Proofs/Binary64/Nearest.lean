import Mathlib
import CutAndChoose.Binary64.Arithmetic
import CutAndChoose.Proofs.Binary64.Rounding

/-!
# CutAndChoose.Proofs.Binary64.Nearest

Binary64 numbers as rationals. `Binary64.nearest` rounds a rational that is not negative, and every
operation on numbers that are not negative is `nearest` of the exact result:

* `ofNat_eq_nearest`, `twoPow_eq_nearest`, `finite_mul`, `finite_div`.

What is known of an operation is then what is known of `nearest`:

* `nearest_value`: a binary64 number is its own rounding.
* `nearest_mono`: rounding is monotone.
* `nearest_error`: it is off by at most a relative `2^-53` or half a unit.
* `nearest_finite`, `nearest_eq_infinite_of_overflow_le`: it overflows from `2^1024 - 2^970` on.
* `nearest_eq_zero`: below half a unit it is zero.
-/

namespace CutAndChoose

namespace Magnitude

/-- One unit, the least positive binary64 number. -/
def unit : ℚ := (2 ^ unitPlaces)⁻¹

/-- The number a magnitude stands for. -/
def value (a : Magnitude) : ℚ := a.units * unit

theorem unit_pos : 0 < unit := by
  unfold unit
  positivity

theorem one_mul_unit : (one : ℚ) * unit = 1 := by
  unfold one unit
  push_cast
  exact mul_inv_cancel₀ (by positivity)

theorem one_pos : 0 < one := Nat.two_pow_pos _

/-- The number `2 ^ e` in units. -/
theorem two_pow_mul_unit (e : Nat) : (2 : ℚ) ^ (e + unitPlaces) * unit = 2 ^ e := by
  rw [pow_add, unit, mul_inv_cancel_right₀ (by positivity)]

theorem two_pow_mul_unit_eq {k : ℕ} {e : ℤ} (h : k = e + unitPlaces) :
    (2 : ℚ) ^ k * unit = 2 ^ e := by
  have hunit : unit = 2 ^ (-unitPlaces : ℤ) := by rw [unit, zpow_neg, zpow_natCast]
  rw [hunit, ← zpow_natCast, ← zpow_add₀ two_ne_zero, h, add_neg_cancel_right]

theorem value_scaled {r s : ℕ} (hr : r ≤ 2 ^ precision) (hb : r * 2 ^ s < limit) :
    (scaled r s hr hb).value = r * 2 ^ (s - unitPlaces : ℤ) := by
  rw [value, scaled, Nat.cast_mul, Nat.cast_pow, Nat.cast_ofNat, mul_assoc,
    two_pow_mul_unit_eq (sub_add_cancel _ _).symm]

theorem limit_mul_unit : (limit : ℚ) * unit = 2 ^ 1024 := by
  unfold limit
  rw [Nat.cast_mul, Nat.cast_pow, Nat.cast_pow, Nat.cast_ofNat, ← pow_add]
  exact two_pow_mul_unit 1024

theorem value_nonneg (a : Magnitude) : 0 ≤ a.value :=
  mul_nonneg (Nat.cast_nonneg _) unit_pos.le

theorem value_lt_limit (a : Magnitude) : a.value < 2 ^ 1024 := by
  rw [← limit_mul_unit]
  exact mul_lt_mul_of_pos_right (Nat.cast_lt.2 a.bounded) unit_pos

theorem eq_of_units_eq {a b : Magnitude} (h : a.units = b.units) : a = b := by
  cases a
  cases b
  cases h
  rfl

theorem value_le_iff {a b : Magnitude} : a.value ≤ b.value ↔ a.units ≤ b.units := by
  unfold value
  rw [mul_le_mul_iff_left₀ unit_pos, Nat.cast_le]

theorem value_lt_iff {a b : Magnitude} : a.value < b.value ↔ a.units < b.units := by
  unfold value
  rw [mul_lt_mul_iff_left₀ unit_pos, Nat.cast_lt]

theorem value_pos_iff {a : Magnitude} : 0 < a.value ↔ 0 < a.units := by
  unfold value
  rw [mul_pos_iff_of_pos_right unit_pos, Nat.cast_pos]

theorem ofQuotient?_eq_some_iff {num den : Nat} {a : Magnitude} :
    ofQuotient? num den = some a ↔ a.units = nearestUnits num den := by
  unfold ofQuotient?
  split
  · rw [Option.some.injEq]
    constructor
    · rintro rfl
      rfl
    · intro h
      exact eq_of_units_eq h.symm
  · rename_i hlimit
    constructor
    · intro h
      cases h
    · intro h
      exact absurd (h ▸ a.bounded) hlimit

theorem limit_le_of_ofQuotient? {num den : Nat} (h : ofQuotient? num den = none) :
    limit ≤ nearestUnits num den := by
  unfold ofQuotient? at h
  split at h
  · cases h
  · rename_i hlimit
    exact Nat.le_of_not_lt hlimit

theorem ofQuotient?_congr {num den num' den' : Nat} (hd : 0 < den) (hd' : 0 < den')
    (h : num * den' = num' * den) : ofQuotient? num den = ofQuotient? num' den' := by
  ext a
  rw [ofQuotient?_eq_some_iff, ofQuotient?_eq_some_iff, nearestUnits_congr hd hd' h]

end Magnitude

namespace Binary64

open Magnitude (unit unit_pos unitPlaces nearestUnits)

/-- The number a finite binary64 number stands for; the others count as zero. -/
def value : Binary64 → ℚ
  | .finite negative a => if negative then -a.value else a.value
  | _ => 0

@[simp] theorem value_finite (a : Magnitude) : (finite false a).value = a.value := rfl

@[simp] theorem value_zero : zero.value = 0 := by
  simp [zero, Magnitude.value, Magnitude.zero, Magnitude.scaled]

/-- The binary64 number nearest to a rational that is not negative. -/
def nearest (v : ℚ) : Binary64 := round false (v.num.toNat * Magnitude.one) v.den

theorem round_congr {num den num' den' : Nat} (hd : 0 < den) (hd' : 0 < den')
    (h : num * den' = num' * den) : round false num den = round false num' den' := by
  unfold round
  rw [Magnitude.ofQuotient?_congr hd hd' h]

theorem round_eq_finite_iff {num den : Nat} {a : Magnitude} :
    round false num den = finite false a ↔ a.units = nearestUnits num den := by
  rw [← Magnitude.ofQuotient?_eq_some_iff]
  unfold round
  cases Magnitude.ofQuotient? num den with
  | none => simp
  | some b => simp

theorem round_cases (num den : Nat) :
    (∃ a, round false num den = finite false a) ∨
      (round false num den = infinite false ∧ Magnitude.limit ≤ nearestUnits num den) := by
  unfold round
  cases h : Magnitude.ofQuotient? num den with
  | some a => exact .inl ⟨a, rfl⟩
  | none => exact .inr ⟨rfl, Magnitude.limit_le_of_ofQuotient? h⟩

theorem num_toNat {v : ℚ} (hv : 0 ≤ v) : (v.num.toNat : ℚ) = v * v.den := by
  have hnum : ((v.num.toNat : ℤ) : ℚ) = v.num := by
    rw [Int.toNat_of_nonneg (Rat.num_nonneg.2 hv)]
  rw [Rat.mul_den_eq_num, ← hnum]
  rfl

/-- Rounding a quotient of units is rounding the rational it stands for. -/
theorem round_eq_nearest {num den : Nat} (hd : 0 < den) {v : ℚ} (hv : num * unit = v * den) :
    round false num den = nearest v := by
  have hden : (0 : ℚ) < den := by exact_mod_cast hd
  have hv0 : 0 ≤ v := by
    have : 0 ≤ v * den := hv ▸ mul_nonneg (Nat.cast_nonneg _) unit_pos.le
    exact nonneg_of_mul_nonneg_left this hden
  refine round_congr hd v.den_pos ?_
  have h1 := Magnitude.one_mul_unit
  have hcross : (num * v.den : ℚ) = v.num.toNat * Magnitude.one * den := by
    rw [num_toNat hv0]
    calc (num * v.den : ℚ) = num * unit * Magnitude.one * v.den := by
          rw [mul_assoc (num : ℚ), mul_comm unit, h1, mul_one]
      _ = v * v.den * Magnitude.one * den := by rw [hv]; ring
  exact_mod_cast hcross

/-! ## Operations -/

theorem ofNat_eq_nearest (n : Nat) : ofNat n = nearest n := by
  refine round_eq_nearest (by decide) ?_
  push_cast
  rw [mul_assoc, Magnitude.one_mul_unit]

theorem twoPow_eq_nearest (e : Int) : twoPow e = nearest (2 ^ e) := by
  unfold twoPow
  split
  · rename_i he
    obtain ⟨k, rfl⟩ : ∃ k : Nat, e = -k := ⟨(-e).toNat, by omega⟩
    refine round_eq_nearest (Nat.two_pow_pos _) ?_
    rw [Magnitude.one_mul_unit, neg_neg, Int.toNat_natCast, zpow_neg, zpow_natCast]
    push_cast
    exact (inv_mul_cancel₀ (by positivity)).symm
  · rename_i he
    obtain ⟨k, rfl⟩ : ∃ k : Nat, e = k := ⟨e.toNat, by omega⟩
    refine round_eq_nearest (by decide) ?_
    rw [Int.toNat_natCast, zpow_natCast]
    push_cast
    rw [mul_assoc, Magnitude.one_mul_unit]

theorem finite_mul (a b : Magnitude) :
    finite false a * finite false b = nearest (a.value * b.value) := by
  have h : finite false a * finite false b = round false (a.units * b.units) Magnitude.one := by
    show mul _ _ = _
    simp [mul]
  rw [h]
  refine round_eq_nearest Magnitude.one_pos ?_
  unfold Magnitude.value
  push_cast
  linear_combination (-(a.units * b.units * unit : ℚ)) * Magnitude.one_mul_unit

theorem finite_div (a : Magnitude) {b : Magnitude} (hb : b.units ≠ 0) :
    finite false a / finite false b = nearest (a.value / b.value) := by
  have hpos : 0 < b.units := Nat.pos_of_ne_zero hb
  have hval : b.value ≠ 0 := (Magnitude.value_pos_iff.2 hpos).ne'
  have h : finite false a / finite false b = round false (a.units * Magnitude.one) b.units := by
    show div _ _ = _
    simp [div, hb]
  rw [h]
  refine round_eq_nearest hpos ?_
  rw [div_mul_eq_mul_div, eq_div_iff hval]
  unfold Magnitude.value
  push_cast
  linear_combination ((a.units * b.units * unit : ℚ)) * Magnitude.one_mul_unit

/-! ## Properties of rounding -/

theorem nearest_eq_finite_iff {v : ℚ} {a : Magnitude} :
    nearest v = finite false a ↔
      a.units = nearestUnits (v.num.toNat * Magnitude.one) v.den :=
  round_eq_finite_iff

theorem nearest_cases (v : ℚ) :
    (∃ a, nearest v = finite false a) ∨
      (nearest v = infinite false ∧
        Magnitude.limit ≤ nearestUnits (v.num.toNat * Magnitude.one) v.den) :=
  round_cases _ _

theorem round_units (y : Nat) : round false y 1 = nearest (y * unit) := by
  refine round_eq_nearest Nat.one_pos ?_
  rw [Nat.cast_one, mul_one]

/-- A binary64 number is its own rounding. -/
theorem nearest_value (a : Magnitude) : nearest a.value = finite false a := by
  have hgrid := Magnitude.nearestUnits_grid a.exact Nat.one_pos
  rw [Nat.mul_one] at hgrid
  rw [Magnitude.value, ← round_units]
  exact round_eq_finite_iff.2 hgrid.symm

/-- The digits of `n * 2 ^ k` are those of `n`, and so are the digits of their roundings. -/
theorem value_ofNat_mul_two_pow {n k : ℕ} {a b : Magnitude} (hn : n ≠ 0)
    (ha : ofNat n = finite false a) (hb : ofNat (n * 2 ^ k) = finite false b) :
    b.value = a.value * 2 ^ k := by
  have hsize : 2 ^ Magnitude.fractionBits ≤ n * Magnitude.one :=
    (Nat.pow_le_pow_right (by decide) (by decide)).trans
      (Nat.le_mul_of_pos_left _ (Nat.pos_of_ne_zero hn))
  have hdouble := Magnitude.nearestUnits_mul_two_pow hsize k
  rw [ofNat, round_eq_finite_iff] at ha hb
  rw [Nat.mul_right_comm, hdouble, ← ha] at hb
  rw [Magnitude.value, Magnitude.value, hb, Nat.cast_mul, Nat.cast_pow, Nat.cast_ofNat,
    mul_right_comm]

/-- What does not overflow on the grid is exact. -/
theorem units_of_nearest_grid {y : Nat} (hy : 2 ^ (y.log2 - Magnitude.fractionBits) ∣ y)
    {a : Magnitude} (h : nearest (y * unit) = finite false a) : a.units = y := by
  have hgrid := Magnitude.nearestUnits_grid hy Nat.one_pos
  rw [Nat.mul_one] at hgrid
  rw [← round_units, round_eq_finite_iff, hgrid] at h
  exact h

/-- A number on the grid overflows only from the limit on. -/
theorem limit_le_of_nearest_grid {y : Nat} (hy : 2 ^ (y.log2 - Magnitude.fractionBits) ∣ y)
    (h : nearest (y * unit) = infinite false) : Magnitude.limit ≤ y := by
  have hgrid := Magnitude.nearestUnits_grid hy Nat.one_pos
  rw [Nat.mul_one] at hgrid
  rw [← round_units] at h
  rcases round_cases y 1 with ⟨a, ha⟩ | ⟨-, hlimit⟩
  · rw [ha] at h
    cases h
  · rwa [hgrid] at hlimit

theorem twoPow_finite {e : ℤ} (hlow : -unitPlaces ≤ e) (hhigh : e < 1024) :
    ∃ p : Magnitude, twoPow e = finite false p ∧ p.value = 2 ^ e := by
  obtain ⟨k, hk⟩ : ∃ k : ℕ, e + unitPlaces = k := ⟨(e + unitPlaces).toNat, by omega⟩
  have hbound : 1 * 2 ^ k < Magnitude.limit := by
    rw [Nat.one_mul, Magnitude.limit, ← pow_add]
    have hplaces : Magnitude.precision + Magnitude.topGap = 1024 + unitPlaces := rfl
    exact Nat.pow_lt_pow_right (by decide) (by omega)
  have hvalue : (Magnitude.scaled 1 k (by decide) hbound).value = 2 ^ e := by
    rw [Magnitude.value_scaled, Nat.cast_one, one_mul, ← hk, add_sub_cancel_right]
  refine ⟨_, ?_, hvalue⟩
  rw [twoPow_eq_nearest, ← hvalue, nearest_value]

/-- Natural numbers of up to 53 binary digits are not rounded. -/
theorem ofNat_of_le {n : ℕ} (h : n ≤ 2 ^ Magnitude.precision) :
    ∃ a, ofNat n = finite false a ∧ a.value = n := by
  have hbound : n * 2 ^ unitPlaces < Magnitude.limit := by
    refine (Nat.mul_le_mul_right _ h).trans_lt ?_
    rw [Magnitude.limit, ← pow_add, ← pow_add]
    exact Nat.pow_lt_pow_right (by decide) (by decide)
  have hvalue : (Magnitude.scaled n unitPlaces h hbound).value = n := by
    rw [Magnitude.value_scaled, sub_self, zpow_zero, mul_one]
  refine ⟨_, ?_, hvalue⟩
  rw [ofNat_eq_nearest, ← hvalue, nearest_value]

theorem one_eq : ∃ a, one = finite false a ∧ a.value = 1 := by
  obtain ⟨a, hone, ha⟩ := @ofNat_of_le 1 Nat.one_le_two_pow
  exact ⟨a, hone, ha.trans Nat.cast_one⟩

theorem value_one : one.value = 1 := by
  obtain ⟨a, hone, ha⟩ := one_eq
  rw [hone, value_finite, ha]

theorem nearest_zero : nearest 0 = zero := by
  have h : Magnitude.zero.value = 0 := value_zero
  rw [← h, nearest_value]
  rfl

theorem nearestUnits_num_mono {v w : ℚ} (hv : 0 ≤ v) (h : v ≤ w) :
    nearestUnits (v.num.toNat * Magnitude.one) v.den ≤
      nearestUnits (w.num.toNat * Magnitude.one) w.den := by
  refine Magnitude.nearestUnits_mono v.den_pos w.den_pos ?_
  have hcross : (v.num.toNat * w.den : ℚ) ≤ w.num.toNat * v.den := by
    rw [num_toNat hv, num_toNat (hv.trans h)]
    have := mul_le_mul_of_nonneg_right h (by positivity : (0 : ℚ) ≤ v.den * w.den)
    linarith
  have hcross' : v.num.toNat * w.den ≤ w.num.toNat * v.den := by exact_mod_cast hcross
  rw [Nat.mul_right_comm, Nat.mul_right_comm w.num.toNat]
  exact Nat.mul_le_mul_right _ hcross'

/-- Below a number that does not overflow nothing does, and rounding keeps the order. -/
theorem nearest_mono {v w : ℚ} (hv : 0 ≤ v) (h : v ≤ w) {b : Magnitude}
    (hw : nearest w = finite false b) :
    ∃ a, nearest v = finite false a ∧ a.value ≤ b.value := by
  have hunits := nearestUnits_num_mono hv h
  rw [← nearest_eq_finite_iff.1 hw] at hunits
  rcases nearest_cases v with ⟨a, ha⟩ | ⟨-, hlimit⟩
  · refine ⟨a, ha, Magnitude.value_le_iff.2 ?_⟩
    rwa [nearest_eq_finite_iff.1 ha]
  · exact absurd b.bounded (Nat.not_lt.2 (hlimit.trans hunits))

theorem value_le_of_nearest {v w : ℚ} {a b : Magnitude} (hv : 0 ≤ v) (h : v ≤ w)
    (ha : nearest v = finite false a) (hb : nearest w = finite false b) : a.value ≤ b.value := by
  obtain ⟨a', ha', hle⟩ := nearest_mono hv h hb
  rw [ha] at ha'
  cases ha'
  exact hle

/-- A number below `v` stays below the rounding of `v`. -/
theorem le_of_nearest {v : ℚ} {a b : Magnitude} (hb : b.value ≤ v)
    (h : nearest v = finite false a) : b.value ≤ a.value :=
  value_le_of_nearest b.value_nonneg hb (nearest_value b) h

/-- A number above `v` stays above the rounding of `v`. -/
theorem nearest_le {v : ℚ} {b : Magnitude} (hv : 0 ≤ v) (hb : v ≤ b.value) :
    ∃ a, nearest v = finite false a ∧ a.value ≤ b.value :=
  nearest_mono hv hb (nearest_value b)

theorem one_le_of_nearest {v : ℚ} (hv : 1 ≤ v) {a : Magnitude} (h : nearest v = finite false a) :
    1 ≤ a.value := by
  obtain ⟨p, -, hp⟩ := one_eq
  rw [← hp] at hv ⊢
  exact le_of_nearest hv h

/-- An error of half a gap, carried over from natural numbers to the rationals they stand for. -/
theorem abs_sub_le_of_units {y num gap den : ℕ} {v : ℚ} (hd : 0 < den)
    (hv : (num : ℚ) * unit = v * den) (hup : 2 * (y * den) ≤ 2 * num + den * gap)
    (hlow : 2 * num ≤ 2 * (y * den) + den * gap) : |(y : ℚ) * unit - v| ≤ gap * unit / 2 := by
  have hden : (0 : ℚ) < den := by exact_mod_cast hd
  have hup' : (2 * (y * den) : ℚ) ≤ 2 * num + den * gap := by exact_mod_cast hup
  have hlow' : (2 * num : ℚ) ≤ 2 * (y * den) + den * gap := by exact_mod_cast hlow
  have hup'' := mul_le_mul_of_nonneg_right hup' unit_pos.le
  have hlow'' := mul_le_mul_of_nonneg_right hlow' unit_pos.le
  rw [abs_le]
  constructor
  · refine le_of_mul_le_mul_right ?_ hden
    linarith
  · refine le_of_mul_le_mul_right ?_ hden
    linarith

/-- Halving a number `k` times at once is off by at most half a unit. -/
theorem nearest_div_two_pow (a : Magnitude) (k : ℕ) :
    ∃ b, nearest (a.value / 2 ^ k) = finite false b ∧ |b.value - a.value / 2 ^ k| ≤ unit / 2 := by
  have hpos : (0 : ℚ) < 2 ^ k := by positivity
  have hvalue : (a.units : ℚ) * unit = a.value / 2 ^ k * (2 ^ k : ℕ) := by
    rw [Nat.cast_pow, Nat.cast_ofNat, div_mul_cancel₀ _ hpos.ne', Magnitude.value]
  obtain ⟨b, hb, -⟩ := nearest_le (div_nonneg a.value_nonneg hpos.le)
    (div_le_self a.value_nonneg (one_le_pow₀ one_le_two))
  refine ⟨b, hb, ?_⟩
  have hround := round_eq_nearest (Nat.two_pow_pos k) hvalue
  rw [hb, round_eq_finite_iff] at hround
  obtain ⟨hup, hlow⟩ := Magnitude.nearestUnits_div_two_pow a k
  rw [← hround] at hup hlow
  have herror := @abs_sub_le_of_units b.units a.units 1 (2 ^ k) _ (Nat.two_pow_pos k) hvalue
    (by rwa [Nat.mul_one]) (by rwa [Nat.mul_one])
  rwa [Nat.cast_one, one_mul] at herror

/-- The error in units: half a gap, where a gap above one unit is at most `2^-52` of `v`. -/
theorem nearestUnits_error {v : ℚ} (hv : 0 ≤ v) :
    ∃ gap : ℚ, (gap = unit ∨ gap ≤ v / 2 ^ 52) ∧
      |nearestUnits (v.num.toNat * Magnitude.one) v.den * unit - v| ≤ gap / 2 := by
  set num := v.num.toNat * Magnitude.one with hnum
  have hden : (0 : ℚ) < v.den := by exact_mod_cast v.den_pos
  have hvalue : (num : ℚ) * unit = v * v.den := by
    rw [hnum]
    push_cast
    rw [mul_assoc, Magnitude.one_mul_unit, mul_one, num_toNat hv]
  refine ⟨2 ^ Magnitude.gapExponent num v.den * unit, ?_, ?_⟩
  · by_cases h : Magnitude.gapExponent num v.den = 0
    · exact .inl (by rw [h, pow_zero, one_mul])
    · right
      have hgap := Magnitude.gap_le h
      have hgap' : (v.den : ℚ) * 2 ^ (52 + Magnitude.gapExponent num v.den) ≤ num := by
        exact_mod_cast hgap
      have hunit := mul_le_mul_of_nonneg_right hgap' unit_pos.le
      rw [hvalue, pow_add] at hunit
      rw [le_div_iff₀ (by positivity)]
      refine le_of_mul_le_mul_right ?_ hden
      linarith
  · have herror := abs_sub_le_of_units v.den_pos hvalue (Magnitude.nearestUnits_le num v.den)
      (Magnitude.le_nearestUnits num v.den_pos)
    rwa [Nat.cast_pow, Nat.cast_ofNat] at herror

theorem nearest_error {v : ℚ} (hv : 0 ≤ v) {a : Magnitude} (h : nearest v = finite false a) :
    |a.value - v| ≤ max (v / 2 ^ 53) (unit / 2) := by
  obtain ⟨gap, hgap, herror⟩ := nearestUnits_error hv
  rw [← nearest_eq_finite_iff.1 h] at herror
  rcases hgap with rfl | hgap
  · exact le_max_of_le_right herror
  · refine le_max_of_le_left (herror.trans ?_)
    linarith

/-- The midpoint between the greatest binary64 number and `2^1024`. -/
def overflow : ℚ := 2 ^ 1024 - 2 ^ 970

theorem below_midpoint_iff {v : ℚ} (hv : 0 ≤ v) :
    v.num.toNat * Magnitude.one + v.den * 2 ^ (Magnitude.topGap - 1) < v.den * Magnitude.limit ↔
      v < overflow := by
  have hden : (0 : ℚ) < v.den := by exact_mod_cast v.den_pos
  have htop : ((2 ^ (Magnitude.topGap - 1) : ℕ) : ℚ) * unit = 2 ^ 970 := by
    rw [Nat.cast_pow, Nat.cast_ofNat]
    exact Magnitude.two_pow_mul_unit 970
  rw [← Nat.cast_lt (α := ℚ), ← mul_lt_mul_iff_left₀ unit_pos, Nat.cast_add, Nat.cast_mul,
    Nat.cast_mul v.den, Nat.cast_mul v.den, add_mul, mul_assoc, Magnitude.one_mul_unit, mul_one,
    num_toNat hv, mul_assoc, htop, mul_assoc, Magnitude.limit_mul_unit, mul_comm v, ← mul_add,
    mul_lt_mul_iff_right₀ hden, overflow, lt_sub_iff_add_lt]

theorem nearest_finite {v : ℚ} (hv : 0 ≤ v) (h : v < overflow) :
    ∃ a, nearest v = finite false a := by
  rcases nearest_cases v with ha | ⟨-, hlimit⟩
  · exact ha
  · have hlt := Magnitude.nearestUnits_lt_limit ((below_midpoint_iff hv).2 h)
    exact absurd hlimit (Nat.not_le.2 hlt)

theorem overflow_eq : overflow = 2 ^ 970 * (2 ^ 54 - 1) := by
  rw [overflow, mul_sub, mul_one, ← pow_add]

theorem overflow_pos : 0 < overflow := by
  rw [overflow_eq]
  exact mul_pos (pow_pos two_pos _) (by norm_num)

/-- The inverse of the overflow threshold lies below the successor of `2^-1024`. -/
theorem one_div_overflow_lt : 1 / overflow < (2 ^ 50 + 1) * unit := by
  have hsplit : (2 : ℚ) ^ Magnitude.unitPlaces = 2 ^ 970 * 2 ^ 104 := by
    rw [← pow_add]
  have hpos : (0 : ℚ) < 2 ^ 970 := pow_pos two_pos _
  rw [div_lt_iff₀ overflow_pos, overflow_eq, unit, hsplit]
  have hcancel : ((2 : ℚ) ^ 50 + 1) * (2 ^ 970 * 2 ^ 104)⁻¹ * (2 ^ 970 * (2 ^ 54 - 1)) =
      (2 ^ 50 + 1) * (2 ^ 54 - 1) / 2 ^ 104 := by
    field_simp
  rw [hcancel]
  norm_num

theorem one_div_overflow_lt_value {t : Magnitude} (h : (2 : ℚ) ^ (-1024 : ℤ) < t.value) :
    1 / overflow < t.value := by
  have hgrid : (2 : ℚ) ^ 50 * unit = 2 ^ (-1024 : ℤ) := Magnitude.two_pow_mul_unit_eq (by decide)
  have hunits : 2 ^ 50 < t.units := by
    exact_mod_cast lt_of_mul_lt_mul_right (hgrid.trans_lt h) unit_pos.le
  calc 1 / overflow < (2 ^ 50 + 1) * unit := one_div_overflow_lt
    _ ≤ t.value := mul_le_mul_of_nonneg_right (by exact_mod_cast hunits) unit_pos.le

/-- From the midpoint on rounding overflows. -/
theorem nearest_eq_infinite_of_overflow_le {v : ℚ} (h : overflow ≤ v) :
    nearest v = infinite false := by
  have hmid := (below_midpoint_iff (overflow_pos.le.trans h)).not.2 (not_lt.2 h)
  have hlimit := Magnitude.limit_le_nearestUnits v.den_pos (Nat.le_of_not_lt hmid)
  rcases nearest_cases v with ⟨a, ha⟩ | ⟨hinf, -⟩
  · rw [← nearest_eq_finite_iff.1 ha] at hlimit
    exact absurd a.bounded (Nat.not_lt.2 hlimit)
  · exact hinf

theorem nearest_eq_infinite {v : ℚ} (h : 2 ^ 1024 ≤ v) : nearest v = infinite false :=
  nearest_eq_infinite_of_overflow_le ((sub_le_self _ (pow_pos two_pos _).le).trans h)

/-- What lies below half a unit is rounded to zero. -/
theorem nearest_eq_zero {v : ℚ} (hv : 0 ≤ v) (h : v < unit / 2) : nearest v = zero := by
  have hunit := unit_pos
  have hfinite : v < overflow := by
    calc v < unit / 2 := h
      _ < unit := half_lt_self hunit
      _ < 1 := inv_lt_one_of_one_lt₀ (one_lt_pow₀ one_lt_two (by decide))
      _ < 2 ^ 970 * (2 ^ 54 - 1) := one_lt_mul_of_le_of_lt (one_le_pow₀ one_le_two) (by norm_num)
      _ = overflow := overflow_eq.symm
  obtain ⟨a, ha⟩ := nearest_finite hv hfinite
  have herror := nearest_error hv ha
  have hmax : max (v / 2 ^ 53) (unit / 2) = unit / 2 :=
    max_eq_right ((div_le_self hv (by norm_num)).trans h.le)
  rw [hmax, abs_le] at herror
  have hlt : a.value < unit := by linarith
  have hcast : (a.units : ℚ) * unit < 1 * unit := by rwa [one_mul]
  have hunits : a.units < 1 := by exact_mod_cast lt_of_mul_lt_mul_right hcast hunit.le
  have hzero : a.units = Magnitude.zero.units := Nat.lt_one_iff.1 hunits
  rw [ha, Magnitude.eq_of_units_eq hzero, zero]

/-! ## Comparison -/

theorem finite_lt_iff {a b : Magnitude} :
    (finite false a).lt (finite false b) = true ↔ a.value < b.value := by
  rw [Magnitude.value_lt_iff]
  simp [lt, position]

end Binary64

end CutAndChoose
