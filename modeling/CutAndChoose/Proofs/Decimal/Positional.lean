import Mathlib
import CutAndChoose.Decimal.Notation

/-!
# CutAndChoose.Proofs.Decimal.Positional

The digits of a natural number, and decimals written without an exponent: the three shapes of such
a text, depending on where the point stands.
-/

namespace CutAndChoose

/-! ## Digits -/

theorem isDigit_of_mem_decimalDigits {n : ℕ} {c : Char} (h : c ∈ decimalDigits n) :
    c.isDigit = true :=
  Nat.isDigit_of_mem_toDigits (by decide) (by decide) h

theorem decimalDigits_ne_nil (n : ℕ) : decimalDigits n ≠ [] := Nat.toDigits_ne_nil

theorem ofDigitChars_decimalDigits (n : ℕ) : Nat.ofDigitChars 10 (decimalDigits n) 0 = n :=
  Nat.ofDigitChars_ten_toDigits

/-- Only zero starts with a zero. -/
theorem head_decimalDigits {n : ℕ} (hn : n ≠ 0) : (decimalDigits n).head? ≠ some '0' := by
  unfold decimalDigits
  induction n using Nat.strongRecOn with
  | ind n ih =>
    by_cases hlt : n < 10
    · rw [Nat.toDigits_of_lt_base hlt]
      interval_cases n <;> simp_all [Nat.digitChar]
    · have hquot : n / 10 ≠ 0 := by omega
      have hne : Nat.toDigits 10 (n / 10) ≠ [] := Nat.toDigits_ne_nil
      rw [Nat.toDigits_of_base_le (by decide) (by omega), List.head?_append_of_ne_nil _ hne]
      exact ih (n / 10) (by omega) hquot

theorem isDigit_of_mem_zeros {n : ℕ} {c : Char} (h : c ∈ zeros n) : c.isDigit = true := by
  rw [List.eq_of_mem_replicate h]
  rfl

/-- Zeros in front of the digits do not count. -/
theorem ofDigitChars_zeros_append (j n : ℕ) :
    Nat.ofDigitChars 10 (zeros j ++ decimalDigits n) 0 = n := by
  rw [Nat.ofDigitChars_append, zeros, Nat.ofDigitChars_replicate_zero, Nat.mul_zero,
    ofDigitChars_decimalDigits]

theorem ofDigitChars_append_zeros (n k : ℕ) :
    Nat.ofDigitChars 10 (decimalDigits n ++ zeros k) 0 = 10 ^ k * n := by
  rw [Nat.ofDigitChars_append, ofDigitChars_decimalDigits, zeros,
    Nat.ofDigitChars_replicate_zero]

/-! ## The shapes of a positional text -/

namespace Notation

variable {d : Decimal}

/-- All digits stand before the point. -/
theorem positionalText_whole (f : Notation) (hexp : 0 ≤ d.exponent) :
    f.positionalText d = decimalDigits d.digits ++ zeros d.exponent.toNat ++ f.wholeEnd := by
  rw [positionalText, if_pos hexp]

/-- The point stands between two digits. -/
theorem positionalText_between (f : Notation) (hexp : d.exponent < 0)
    (hplaces : (-d.exponent).toNat < (decimalDigits d.digits).length) :
    f.positionalText d =
      (decimalDigits d.digits).take ((decimalDigits d.digits).length - (-d.exponent).toNat) ++
        '.' :: (decimalDigits d.digits).drop
          ((decimalDigits d.digits).length - (-d.exponent).toNat) := by
  unfold positionalText
  dsimp only
  rw [if_neg (not_le.2 hexp), if_pos hplaces]

/-- All digits stand behind the point. -/
theorem positionalText_below_one (f : Notation) (hexp : d.exponent < 0)
    (hplaces : ¬(-d.exponent).toNat < (decimalDigits d.digits).length) :
    f.positionalText d = '0' :: '.' ::
      (zeros ((-d.exponent).toNat - (decimalDigits d.digits).length) ++
        decimalDigits d.digits) := by
  unfold positionalText
  dsimp only
  rw [if_neg (not_le.2 hexp), if_neg hplaces]

end Notation

end CutAndChoose
