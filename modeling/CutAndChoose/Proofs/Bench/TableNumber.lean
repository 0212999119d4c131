import Mathlib
import CutAndChoose.Proofs.Bench.LineValue
import CutAndChoose.Proofs.Decimal.Positional
import CutAndChoose.Proofs.Decimal.Shortest

/-!
# CutAndChoose.Proofs.Bench.TableNumber

Readers for the number columns of a table, and that they give back what was written.

* `word64?`: a decimal number below `2^64`.
* `float?`: a decimal numeral with an optional sign and an optional exponent, or the name of an
  infinity or of `nan`; a numeral is rounded to the nearest float.
-/

namespace CutAndChoose

/-- Whether a minus stands in front, and what follows the sign. -/
def splitSign : List Char → Bool × List Char
  | '-' :: s => (true, s)
  | '+' :: s => (false, s)
  | s => (false, s)

def natural? (s : List Char) : Option Nat :=
  if s ≠ [] ∧ s.all Char.isDigit then some (Nat.ofDigitChars 10 s 0) else none

/-- Reads a number below `2^64`; a plus may stand in front, but no minus. -/
def word64? (s : List Char) : Option UInt64 :=
  match splitSign s with
  | (true, _) => none
  | (false, digits) =>
    (natural? digits).bind fun n => if n < UInt64.size then some (UInt64.ofNat n) else none

def exponent? (s : List Char) : Option Int :=
  let (negative, digits) := splitSign s
  (natural? digits).map fun n => if negative then -n else n

def isExponentMark (c : Char) : Bool := c == 'e' || c == 'E'

/-- Reads a numeral and, behind an `e`, the power of ten that it is multiplied with. -/
def scaledNumeral? (s : List Char) : Option Decimal :=
  match s.dropWhile (!isExponentMark ·) with
  | [] => numeral? s
  | _ :: power =>
    match numeral? (s.takeWhile (!isExponentMark ·)), exponent? power with
    | some d, some e => some ⟨d.digits, d.exponent + e⟩
    | _, _ => none

/-- Reads the name of a float that no numeral stands for, in small or capital letters. -/
def named? (negative : Bool) (s : List Char) : Option Binary64 :=
  let name := s.map Char.toLower
  if name = "inf".toList ∨ name = "infinity".toList then some (.infinite negative)
  else if name = "nan".toList then some .nan
  else none

def float? (s : List Char) : Option Binary64 :=
  let (negative, s) := splitSign s
  match scaledNumeral? s with
  | some d => some (d.toBinary64 negative)
  | none => named? negative s

/-! ## Numbers in decimal digits -/

theorem not_sign_of_isNumeralChar {c : Char} (h : isNumeralChar c = true) : c ≠ '-' ∧ c ≠ '+' := by
  constructor
  · rintro rfl
    cases h
  · rintro rfl
    cases h

theorem splitSign_of_head {s : List Char} (h : ∀ c ∈ s.head?, c ≠ '-' ∧ c ≠ '+') :
    splitSign s = (false, s) := by
  unfold splitSign
  split
  · exact absurd rfl (h '-' rfl).1
  · exact absurd rfl (h '+' rfl).2
  · rfl

theorem splitSign_signText {negative : Bool} {s : List Char}
    (h : ∀ c ∈ s.head?, c ≠ '-' ∧ c ≠ '+') :
    splitSign (Notation.signText negative ++ s) = (negative, s) := by
  cases negative with
  | true => rfl
  | false => exact splitSign_of_head h

theorem word64?_decimalDigits (n : UInt64) : word64? (decimalDigits n.toNat) = some n := by
  have hdigits : (decimalDigits n.toNat).all Char.isDigit = true :=
    List.all_eq_true.2 fun c hc => isDigit_of_mem_decimalDigits hc
  have hsign : splitSign (decimalDigits n.toNat) = (false, decimalDigits n.toNat) := by
    refine splitSign_of_head fun c hc => not_sign_of_isNumeralChar ?_
    rw [isNumeralChar, isDigit_of_mem_decimalDigits (List.mem_of_mem_head? hc), Bool.true_or]
  unfold word64?
  rw [hsign]
  simp [natural?, decimalDigits_ne_nil, hdigits, ofDigitChars_decimalDigits, n.toNat_lt_size]

/-! ## Floats -/

section Numeral

variable {s : List Char} {d : Decimal}

theorem scaledNumeral?_of_numeral (h : Numeral s d) : scaledNumeral? s = some d := by
  have hmark : ∀ c ∈ s, (!isExponentMark c) = true := by
    intro c hc
    have hchar := h.isNumeralChar_of_mem hc
    cases hmark : isExponentMark c with
    | false => rfl
    | true =>
      simp only [isExponentMark, Bool.or_eq_true, beq_iff_eq] at hmark
      rcases hmark with rfl | rfl
      · cases hchar
      · cases hchar
  have hdrop := List.dropWhile_eq_nil_iff.2 hmark
  unfold scaledNumeral?
  rw [hdrop]
  exact numeral?_of_numeral h

theorem float?_of_numeral (h : Numeral s d) (negative : Bool) :
    float? (Notation.signText negative ++ s) = some (d.toBinary64 negative) := by
  have hsign : splitSign (Notation.signText negative ++ s) = (negative, s) :=
    splitSign_signText fun c hc =>
      not_sign_of_isNumeralChar (h.isNumeralChar_of_mem (List.mem_of_mem_head? hc))
  unfold float?
  rw [hsign]
  simp only [scaledNumeral?_of_numeral h]

end Numeral

/-! The plain text of a decimal is a numeral of the same value, one lemma for each of its shapes. -/

section Positional

variable {d : Decimal}

/-- A numeral with the digits of a decimal and as many places stands for this decimal. -/
theorem ofNumeral_eq {whole fraction : List Char} {j : ℕ}
    (hdigits : whole ++ fraction = zeros j ++ decimalDigits d.digits)
    (hplaces : (fraction.length : ℤ) = -d.exponent) : Decimal.ofNumeral whole fraction = d := by
  rw [Decimal.ofNumeral, hdigits, ofDigitChars_zeros_append, hplaces, neg_neg]

/-- The zeros behind the digits are read as digits, so only the value is the same. -/
theorem numeral_of_whole (hexp : 0 ≤ d.exponent) :
    ∃ d', Numeral (Notation.plain.positionalText d) d' ∧ d'.value = d.value := by
  obtain ⟨k, hk⟩ := Int.eq_ofNat_of_zero_le hexp
  have htext : Notation.plain.positionalText d = decimalDigits d.digits ++ zeros k := by
    rw [Notation.plain.positionalText_whole hexp, hk]
    exact List.append_nil _
  rw [htext]
  refine ⟨.ofNumeral (decimalDigits d.digits ++ zeros k) [], .whole ?_ ?_, ?_⟩
  · exact List.append_ne_nil_of_left_ne_nil (decimalDigits_ne_nil _) _
  · intro c hc
    rcases List.mem_append.1 hc with hc | hc
    · exact isDigit_of_mem_decimalDigits hc
    · exact isDigit_of_mem_zeros hc
  · rw [Decimal.ofNumeral, List.append_nil, ofDigitChars_append_zeros, Decimal.value,
      Decimal.value, hk, zpow_natCast]
    simp
    ring

theorem numeral_of_between (hexp : d.exponent < 0)
    (hplaces : (-d.exponent).toNat < (decimalDigits d.digits).length) :
    Numeral (Notation.plain.positionalText d) d := by
  have hall : ∀ c ∈ decimalDigits d.digits, c.isDigit = true :=
    fun c hc => isDigit_of_mem_decimalDigits hc
  have hlength : (((decimalDigits d.digits).drop
      ((decimalDigits d.digits).length - (-d.exponent).toNat)).length : ℤ) = -d.exponent := by
    rw [List.length_drop]
    omega
  rw [Notation.plain.positionalText_between hexp hplaces]
  generalize (decimalDigits d.digits).length - (-d.exponent).toNat = n at *
  have hsplit := List.take_append_drop n (decimalDigits d.digits)
  have hnumeral := Numeral.pointed (fun c hc => hall c (List.mem_of_mem_take hc))
    (fun c hc => hall c (List.mem_of_mem_drop hc)) (hsplit.symm ▸ decimalDigits_ne_nil d.digits)
  rwa [@ofNumeral_eq d _ _ 0 hsplit hlength] at hnumeral

theorem numeral_of_below_one (hexp : d.exponent < 0)
    (hplaces : ¬(-d.exponent).toNat < (decimalDigits d.digits).length) :
    Numeral (Notation.plain.positionalText d) d := by
  rw [Notation.plain.positionalText_below_one hexp hplaces]
  obtain ⟨j, hj⟩ : ∃ j, (-d.exponent).toNat = j + (decimalDigits d.digits).length :=
    ⟨_, (Nat.sub_add_cancel (not_lt.1 hplaces)).symm⟩
  have hfraction : ∀ c ∈ zeros j ++ decimalDigits d.digits, c.isDigit = true := by
    intro c hc
    rcases List.mem_append.1 hc with hc | hc
    · exact isDigit_of_mem_zeros hc
    · exact isDigit_of_mem_decimalDigits hc
  have hlength : ((zeros j ++ decimalDigits d.digits).length : ℤ) = -d.exponent := by
    rw [List.length_append, zeros, List.length_replicate]
    omega
  have hnumeral := @Numeral.pointed ['0'] _ (by simp) hfraction (by simp)
  rw [@ofNumeral_eq d ['0'] (zeros j ++ decimalDigits d.digits) (j + 1) rfl hlength] at hnumeral
  rw [hj, Nat.add_sub_cancel]
  exact hnumeral

theorem numeral_positionalText (d : Decimal) :
    ∃ d', Numeral (Notation.plain.positionalText d) d' ∧ d'.value = d.value := by
  rcases le_or_gt 0 d.exponent with hexp | hexp
  · exact numeral_of_whole hexp
  · by_cases hplaces : (-d.exponent).toNat < (decimalDigits d.digits).length
    · exact ⟨d, numeral_of_between hexp hplaces, rfl⟩
    · exact ⟨d, numeral_of_below_one hexp hplaces, rfl⟩

end Positional

/-- What a table writes for a float is read as that float. -/
theorem float?_text (x : Binary64) : float? (Notation.plain.text x) = some x := by
  cases x with
  | finite negative a =>
    obtain ⟨d, hnumeral, hvalue⟩ := numeral_positionalText (a.shortest .up)
    have hread := a.magnitude?_shortest .up
    rw [← Decimal.magnitude?_congr hvalue] at hread
    have htext : Notation.plain.text (.finite negative a) =
        Notation.signText negative ++ Notation.plain.positionalText (a.shortest .up) := rfl
    rw [htext, float?_of_numeral hnumeral, Decimal.toBinary64, hread]
  | infinite negative =>
    cases negative with
    | false => decide
    | true => decide
  | nan => decide

end CutAndChoose
