/-!
# CutAndChoose.Binary64.Basic

IEEE-754 binary64 numbers as exact values.

* `Magnitude`: a finite absolute value, counted in units of `2^-1074`, the smallest positive
  number. It keeps at most 53 significant bits and stays below `2^1024`.
* `Binary64`: a signed magnitude, a signed infinity or the one `nan`.
* `toBits` and `ofBits`: the interchange encoding in a 64-bit word.

A magnitude with at most 53 significant bits is a multiple of `2^(log2 units - 52)`, the gap
between neighbours at its size. `dvd_scaled` gives that divisibility for every `r * 2^s` with
`r ≤ 2^53`, so decoding and rounding only have to produce that form.

Powers of numbers are those of core, here and in every module that computes with them, so that a
term does not depend on what else is imported.
-/

namespace CutAndChoose

attribute [local instance (2000)] instPowNat

namespace Magnitude

/-- A unit is `2 ^ -unitPlaces`. -/
abbrev unitPlaces : Nat := 1074

abbrev precision : Nat := 53

/-- Binary digits of the fraction field; the leading digit of a number is not stored. -/
abbrev fractionBits : Nat := 52

/-- The gap between neighbours in the last binade is `2^2045` units, which is `2^971`. -/
def topGap : Nat := 2045

/-- Finite magnitudes lie below `2^1024`: they have 53 digits at the widest gap. -/
def limit : Nat := 2 ^ precision * 2 ^ topGap

end Magnitude

structure Magnitude where
  units : Nat
  exact : 2 ^ (units.log2 - Magnitude.fractionBits) ∣ units
  bounded : units < Magnitude.limit
  deriving DecidableEq

namespace Magnitude

theorem two_pow_precision : 2 ^ precision = 2 * 2 ^ fractionBits := rfl

theorem precision_eq : precision = fractionBits + 1 := rfl

/-- Below `2^53` the gap between neighbours divides the scale. -/
theorem dvd_scaled_of_lt {r s : Nat} (hr : r < 2 ^ precision) :
    2 ^ ((r * 2 ^ s).log2 - fractionBits) ∣ r * 2 ^ s := by
  by_cases h : r * 2 ^ s = 0
  · rw [h]; exact Nat.dvd_zero _
  · have : r * 2 ^ s < 2 ^ (precision + s) := by
      rw [Nat.pow_add]
      exact Nat.mul_lt_mul_of_pos_right hr (Nat.two_pow_pos s)
    have := (Nat.log2_lt h).2 this
    rw [precision_eq] at this
    exact Nat.dvd_trans (Nat.pow_dvd_pow 2 (by omega)) (Nat.dvd_mul_left _ _)

theorem dvd_scaled {r s : Nat} (hr : r ≤ 2 ^ precision) :
    2 ^ ((r * 2 ^ s).log2 - fractionBits) ∣ r * 2 ^ s := by
  rcases Nat.lt_or_ge r (2 ^ precision) with h | h
  · exact dvd_scaled_of_lt h
  · have hr' : r = 2 ^ precision := Nat.le_antisymm hr h
    rw [hr', ← Nat.pow_add, Nat.log2_two_pow]
    exact Nat.pow_dvd_pow 2 (Nat.sub_le _ _)

def scaled (r s : Nat) (hr : r ≤ 2 ^ precision) (hb : r * 2 ^ s < limit) : Magnitude :=
  ⟨r * 2 ^ s, dvd_scaled hr, hb⟩

theorem scaled_lt_limit {r s : Nat} (hr : r < 2 ^ precision) (hs : s ≤ topGap) :
    r * 2 ^ s < limit := by
  calc r * 2 ^ s < 2 ^ precision * 2 ^ s := Nat.mul_lt_mul_of_pos_right hr (Nat.two_pow_pos s)
    _ ≤ limit := Nat.mul_le_mul_left _ (Nat.pow_le_pow_right (by decide) hs)

def zero : Magnitude := scaled 0 0 (by decide) (scaled_lt_limit (by decide) (by decide))

/-- Exponent and fraction fields of the encoding, read as one number. -/
def field (a : Magnitude) : Nat :=
  let s := a.units.log2 - fractionBits
  s * 2 ^ fractionBits + a.units / 2 ^ s

def ofFields (e f : Nat) (he : e < 2047) (hf : f < 2 ^ fractionBits) : Magnitude :=
  have hf' : 2 ^ fractionBits + f < 2 ^ precision := by rw [two_pow_precision]; omega
  have hf'' : f < 2 ^ precision := by omega
  if e = 0 then scaled f 0 (Nat.le_of_lt hf'') (scaled_lt_limit hf'' (Nat.zero_le _))
  else scaled (2 ^ fractionBits + f) (e - 1) (Nat.le_of_lt hf')
    (scaled_lt_limit hf' (by unfold topGap; omega))

end Magnitude

inductive Binary64 where
  | finite (negative : Bool) (abs : Magnitude)
  | infinite (negative : Bool)
  | nan
  deriving DecidableEq

namespace Binary64

open Magnitude (fractionBits)

def zero : Binary64 := .finite false .zero

def isFinite : Binary64 → Bool
  | .finite _ _ => true
  | _ => false

def neg : Binary64 → Binary64
  | .finite negative a => .finite (!negative) a
  | .infinite negative => .infinite (!negative)
  | .nan => .nan

/-- Position on the number line in units of `2^-1074`, an infinity standing one step past the
last binade. Both zeros stand at `0`; `nan` has no position. -/
def position : Binary64 → Option Int
  | .finite negative a => some (if negative then -a.units else a.units)
  | .infinite negative => some (if negative then -Magnitude.limit else Magnitude.limit)
  | .nan => none

/-- Numeric comparison; nothing is below or above `nan`. -/
def lt (x y : Binary64) : Bool :=
  match x.position, y.position with
  | some i, some j => decide (i < j)
  | _, _ => false

private def signBit (negative : Bool) : Nat := if negative then 0x8000000000000000 else 0

def toBits : Binary64 → UInt64
  | .finite negative a => UInt64.ofNat (signBit negative + a.field)
  | .infinite negative => UInt64.ofNat (signBit negative + 2047 * 2 ^ fractionBits)
  | .nan => 0x7ff8000000000000

/-- Decodes a word; all words with a full exponent field and a fraction are `nan`. -/
def ofBits (w : UInt64) : Binary64 :=
  let negative := decide (signBit true ≤ w.toNat)
  let e := w.toNat / 2 ^ fractionBits % 2048
  let f := w.toNat % 2 ^ fractionBits
  if he : e < 2047 then
    .finite negative (.ofFields e f he (Nat.mod_lt _ (by decide)))
  else if f = 0 then .infinite negative
  else .nan

end Binary64

end CutAndChoose
