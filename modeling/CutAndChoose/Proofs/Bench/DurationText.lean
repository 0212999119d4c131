import Mathlib
import CutAndChoose.Proofs.Bench.LineValue
import CutAndChoose.Proofs.Binary64.Near
import CutAndChoose.Proofs.Binary64.Power
import CutAndChoose.Proofs.Decimal.Positional
import CutAndChoose.Proofs.Decimal.Value

/-!
# CutAndChoose.Proofs.Bench.DurationText

The text that the prover prints for an elapsed time, and that the log reader takes it back.

* `Duration`: seconds and nanoseconds, as the clock counts them.
* `Duration.text`: a value in the largest unit that leaves its whole part nonzero, with as many
  places as it needs, and the sign of that unit.
* `numeral_placesText`: the value in that text is exact.
* `Duration.timeOn_text`: what stands at the end of a line is read as a time that is off by at most
  a relative `2^-50`: the value, the size of the unit and their product are rounded, once each.
-/

namespace CutAndChoose

/-! ## The text of a duration -/

structure Duration where
  seconds : UInt64
  nanoseconds : Nat
  bounded : nanoseconds < 10 ^ 9

namespace TimeUnit

/-- A unit is `10 ^ places` nanoseconds. -/
def places : TimeUnit → Nat
  | nanosecond => 0
  | microsecond => 3
  | millisecond => 6
  | second => 9

def sign : TimeUnit → List Char
  | nanosecond => "ns".toList
  | microsecond => "µs".toList
  | millisecond => "ms".toList
  | second => "s".toList

/-- The first of the larger units that goes into a number of nanoseconds. -/
def forNanoseconds (n : Nat) : TimeUnit :=
  ([second, millisecond, microsecond].find? (10 ^ ·.places ≤ n)).getD nanosecond

end TimeUnit

/-- The digits of `n / 10 ^ places` behind the point, up to the last one that is not zero. -/
def fractionDigits : Nat → Nat → List Char
  | 0, _ => []
  | places + 1, n =>
    if n = 0 then []
    else Nat.digitChar (n / 10 ^ places) :: fractionDigits places (n % 10 ^ places)

/-- `n / 10 ^ places` in decimal digits, without a point if it is a whole number. -/
def placesText (places n : Nat) : List Char :=
  let fraction := fractionDigits places (n % 10 ^ places)
  decimalDigits (n / 10 ^ places) ++ if fraction = [] then [] else '.' :: fraction

namespace Duration

/-- The number of nanoseconds. -/
def total (t : Duration) : Nat := t.seconds.toNat * 10 ^ 9 + t.nanoseconds

def milliseconds (t : Duration) : ℚ := t.total / 10 ^ 6

def unit (t : Duration) : TimeUnit := .forNanoseconds t.total

def text (t : Duration) : List Char := placesText t.unit.places t.total ++ t.unit.sign

end Duration

/-! ## Its value -/

section Fraction

variable {places n : ℕ}

theorem div_lt_ten (h : n < 10 ^ (places + 1)) : n / 10 ^ places < 10 :=
  Nat.div_lt_of_lt_mul (pow_succ 10 places ▸ h)

theorem isDigit_of_mem_fractionDigits (h : n < 10 ^ places) {c : Char}
    (hc : c ∈ fractionDigits places n) : c.isDigit = true := by
  fun_induction fractionDigits places n with
  | case1 => cases hc
  | case2 => cases hc
  | case3 places n hn ih =>
    rcases List.mem_cons.1 hc with rfl | hc
    · simpa [Nat.isDigit_digitChar] using div_lt_ten h
    · exact ih (Nat.mod_lt n (by positivity)) hc

/-- The zeros that are left off at the end make up for the missing places. -/
theorem ofDigitChars_fractionDigits (h : n < 10 ^ places) (front : ℕ) :
    ∃ missing, (fractionDigits places n).length + missing = places ∧
      Nat.ofDigitChars 10 (fractionDigits places n) front * 10 ^ missing =
        front * 10 ^ places + n := by
  fun_induction fractionDigits places n generalizing front with
  | case1 n => exact ⟨0, by simpa using h⟩
  | case2 places => exact ⟨places + 1, by simp⟩
  | case3 places n hn ih =>
    obtain ⟨missing, hlength, hvalue⟩ :=
      ih (Nat.mod_lt n (by positivity)) (10 * front + n / 10 ^ places)
    refine ⟨missing, ?_, ?_⟩
    · rw [List.length_cons]
      omega
    · rw [Nat.ofDigitChars_cons_digitChar_of_lt_ten (div_lt_ten h), hvalue]
      calc (10 * front + n / 10 ^ places) * 10 ^ places + n % 10 ^ places
          = front * 10 ^ (places + 1) + (10 ^ places * (n / 10 ^ places) + n % 10 ^ places) := by
            ring
        _ = front * 10 ^ (places + 1) + n := by rw [Nat.div_add_mod]

/-- A numeral whose last `missing` zeros are left off. -/
theorem ofNumeral_value {whole fraction : List Char} {missing : ℕ}
    (hlength : fraction.length + missing = places)
    (hdigits : Nat.ofDigitChars 10 (whole ++ fraction) 0 * 10 ^ missing = n) :
    (Decimal.ofNumeral whole fraction).value = n / 10 ^ places := by
  rw [Decimal.ofNumeral, Decimal.value, zpow_neg, zpow_natCast, ← div_eq_mul_inv,
    div_eq_div_iff (by positivity) (by positivity), ← hdigits, ← hlength]
  push_cast
  ring

/-- The text of `n / 10 ^ places` is a numeral of exactly this value. -/
theorem numeral_placesText (places n : ℕ) :
    ∃ d, Numeral (placesText places n) d ∧ d.value = n / 10 ^ places := by
  have hrest : n % 10 ^ places < 10 ^ places := Nat.mod_lt n (by positivity)
  have hwhole : ∀ c ∈ decimalDigits (n / 10 ^ places), c.isDigit = true :=
    fun c hc => isDigit_of_mem_decimalDigits hc
  have hfraction : ∀ c ∈ fractionDigits places (n % 10 ^ places), c.isDigit = true :=
    fun c hc => isDigit_of_mem_fractionDigits hrest hc
  have hne := decimalDigits_ne_nil (n / 10 ^ places)
  obtain ⟨missing, hlength, hdigits⟩ := ofDigitChars_fractionDigits hrest (n / 10 ^ places)
  nth_rewrite 1 [← ofDigitChars_decimalDigits (n / 10 ^ places)] at hdigits
  rw [← Nat.ofDigitChars_append, Nat.div_add_mod'] at hdigits
  have hvalue := ofNumeral_value hlength hdigits
  unfold placesText
  by_cases hnil : fractionDigits places (n % 10 ^ places) = []
  · rw [hnil] at hvalue
    simp only [hnil, if_true, List.append_nil]
    exact ⟨_, .whole hne hwhole, hvalue⟩
  · simp only [hnil, if_false]
    exact ⟨_, .pointed hwhole hfraction (List.append_ne_nil_of_left_ne_nil hne _), hvalue⟩

/-- Zeros inside the fraction stay, those at its end go. -/
example : placesText 9 12034500000 = "12.0345".toList := by cbv

end Fraction

/-! ## The size of the value and its unit -/

namespace TimeUnit

/-- Only zero has a zero in front of the point. -/
theorem le_of_forNanoseconds {n : ℕ} (hn : n ≠ 0) : 10 ^ (forNanoseconds n).places ≤ n := by
  unfold forNanoseconds
  cases hfind : [second, millisecond, microsecond].find? (10 ^ ·.places ≤ n) with
  | none => exact Nat.one_le_iff_ne_zero.2 hn
  | some u => simpa using List.find?_some hfind

theorem forNanoseconds_of_le {n : ℕ} (hn : 10 ^ 9 ≤ n) : forNanoseconds n = second := by
  have hsecond : 10 ^ second.places ≤ n := hn
  simp [forNanoseconds, hsecond]

theorem milliseconds_eq (u : TimeUnit) :
    u.milliseconds = Binary64.nearest (10 ^ ((u.places : ℤ) - 6)) := by
  cases u <;> simp [milliseconds, Decimal.toBinary64_eq_nearest, Decimal.value, places]

end TimeUnit

namespace Duration

variable (t : Duration)

/-- The value in front of the sign. -/
def value : ℚ := t.total / 10 ^ t.unit.places

theorem milliseconds_eq : t.milliseconds = t.value * 10 ^ ((t.unit.places : ℤ) - 6) := by
  rw [milliseconds, value, zpow_sub₀ (by norm_num), zpow_natCast]
  have hpos : (10 : ℚ) ^ t.unit.places ≠ 0 := by positivity
  field_simp

theorem one_le_value (h : t.total ≠ 0) : 1 ≤ t.value := by
  rw [value, one_le_div (by positivity)]
  exact_mod_cast TimeUnit.le_of_forNanoseconds h

theorem value_le : t.value ≤ 2 ^ 64 := by
  have hseconds : t.seconds.toNat < 2 ^ 64 := t.seconds.toNat_lt
  have htotal : t.total ≤ 2 ^ 64 * 10 ^ t.unit.places := by
    by_cases hlarge : 10 ^ 9 ≤ t.total
    · have hnanoseconds := t.bounded
      have hplaces : TimeUnit.second.places = 9 := rfl
      rw [unit, TimeUnit.forNanoseconds_of_le hlarge, hplaces, total]
      omega
    · calc t.total ≤ 2 ^ 64 * 1 := by omega
        _ ≤ 2 ^ 64 * 10 ^ t.unit.places := Nat.mul_le_mul_left _ (Nat.one_le_pow' _ _)
  rw [value, div_le_iff₀ (by positivity)]
  exact_mod_cast htotal

end Duration

/-! ## The time that is read -/

namespace TimeUnit

/-- A unit is a number of milliseconds that is rounded, but neither very small nor very large. -/
theorem milliseconds_near (u : TimeUnit) :
    ∃ a : Magnitude, u.milliseconds = .finite false a ∧ 2 ^ (-20 : ℤ) ≤ a.value ∧
      a.value ≤ 2 ^ (10 : ℤ) ∧ Near 1 0 (10 ^ ((u.places : ℤ) - 6)) a.value := by
  rw [milliseconds_eq]
  apply Binary64.nearest_between (by decide) (by decide)
  · cases u <;> norm_num [places]
  · cases u <;> norm_num [places]

theorem unitBehind_sign (u : TimeUnit) : unitBehind u.sign = u := by
  cases u <;> rfl

theorem not_isNumeralChar_head_sign (u : TimeUnit) :
    ∀ c ∈ u.sign.head?, isNumeralChar c = false := by
  cases u <;> simp [sign] <;> rfl

end TimeUnit

namespace Duration

variable (t : Duration)

theorem milliseconds_nonneg : 0 ≤ t.milliseconds := by
  unfold milliseconds
  positivity

/-- Zero is read as zero. Any other value is rounded, then the unit, then their product, all within
the range of normal numbers. -/
theorem value_mul_milliseconds :
    ∃ r : Magnitude, Binary64.nearest t.value * t.unit.milliseconds = .finite false r ∧
      |r.value - t.milliseconds| ≤ t.milliseconds / 2 ^ 50 := by
  obtain ⟨b, hb, hblow, hbhigh, hbnear⟩ := t.unit.milliseconds_near
  rw [hb]
  by_cases hzero : t.total = 0
  · have hvalue : t.value = 0 := by rw [value, hzero, Nat.cast_zero, zero_div]
    have hread : Magnitude.zero.value = 0 := Binary64.value_zero
    refine ⟨.zero, ?_, ?_⟩
    · rw [hvalue, Binary64.nearest_zero, Binary64.zero_mul_finite, Binary64.zero]
    · rw [milliseconds_eq, hvalue, hread]
      simp
  · obtain ⟨a, ha, halow, hahigh, hanear⟩ := @Binary64.nearest_between t.value 0 64 (by decide)
      (by decide) (t.one_le_value hzero) t.value_le
    have hlow : 2 ^ (-20 : ℤ) ≤ a.value * b.value := by
      calc (2 : ℚ) ^ (-20 : ℤ) = 2 ^ (0 : ℤ) * 2 ^ (-20 : ℤ) := by rw [zpow_zero, one_mul]
        _ ≤ a.value * b.value := mul_le_mul halow hblow (by positivity) a.value_nonneg
    have hhigh : a.value * b.value ≤ 2 ^ (74 : ℤ) := by
      calc a.value * b.value ≤ 2 ^ (64 : ℤ) * 2 ^ (10 : ℤ) :=
            mul_le_mul hahigh hbhigh b.value_nonneg (by positivity)
        _ = 2 ^ (74 : ℤ) := by norm_num
    obtain ⟨r, hr, -, -, hrnear⟩ :=
      Binary64.nearest_between (by decide) (by decide) hlow hhigh
    have hproduct := hanear.mul a.value_nonneg (by positivity) hbnear
    rw [← milliseconds_eq] at hproduct
    have hnear := (hproduct.trans le_rfl le_rfl hrnear).abs_sub_le t.milliseconds_nonneg
      (by norm_num) (by decide)
    refine ⟨r, ?_, by simpa using hnear⟩
    rw [ha, Binary64.finite_mul, hr]

/-- Behind a text without digits and points the duration is the time on the line. -/
theorem timeOn_text {front : List Char} (hfront : ∀ c ∈ front, isNumeralChar c = false) :
    ∃ r : Magnitude, TimeOn (front ++ t.text) (.finite false r) ∧
      |r.value - t.milliseconds| ≤ t.milliseconds / 2 ^ 50 := by
  obtain ⟨d, hnumeral, hvalue⟩ := numeral_placesText t.unit.places t.total
  obtain ⟨r, hr, herror⟩ := t.value_mul_milliseconds
  refine ⟨r, ⟨placesText t.unit.places t.total, t.unit.sign, d, ?_, hnumeral, ?_⟩, herror⟩
  · refine ⟨front, rfl, hfront, hnumeral.ne_nil, fun c hc => hnumeral.isNumeralChar_of_mem hc, ?_⟩
    exact t.unit.not_isNumeralChar_head_sign
  · rw [TimeUnit.unitBehind_sign, d.toBinary64_eq_nearest, hvalue, ← hr]
    rfl

end Duration

end CutAndChoose
