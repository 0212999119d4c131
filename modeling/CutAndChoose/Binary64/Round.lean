import CutAndChoose.Binary64.Basic

/-!
# CutAndChoose.Binary64.Round

The one rounding behind every operation: an exact quotient of natural numbers, counted in units
of `2^-1074`, goes to the nearest binary64 number, a tie to the one with the even last digit.

* `divNearest num den`: the nearest natural number to `num / den`.
* `Magnitude.nearestUnits num den`: the nearest multiple of the gap at the size of `num / den`.
* `Binary64.round negative num den`: the same with a sign, infinite from the overflow
  threshold on.
-/

namespace CutAndChoose

attribute [local instance (2000)] instPowNat

/-- The natural number nearest to `num / den`, a tie going to the even neighbour. -/
def divNearest (num den : Nat) : Nat :=
  let q := num / den
  let twice := 2 * (num % den)
  if twice < den ∨ (twice = den ∧ q % 2 = 0) then q else q + 1

theorem divNearest_le {num den k : Nat} (h : num / den < k) : divNearest num den ≤ k := by
  unfold divNearest
  dsimp only
  split <;> omega

theorem le_divNearest (num den : Nat) : num / den ≤ divNearest num den := by
  unfold divNearest
  dsimp only
  split <;> omega

namespace Magnitude

/-- The gap between neighbours around `num / den` is `2 ^ gapExponent num den` units. -/
def gapExponent (num den : Nat) : Nat := (num / den).log2 - fractionBits

def nearestUnits (num den : Nat) : Nat :=
  let s := gapExponent num den
  divNearest num (den * 2 ^ s) * 2 ^ s

theorem quotient_lt (num den : Nat) : num / (den * 2 ^ gapExponent num den) < 2 ^ precision := by
  rw [← Nat.div_div_eq_div_mul, Nat.div_lt_iff_lt_mul (Nat.two_pow_pos _), ← Nat.pow_add]
  refine Nat.lt_of_lt_of_le Nat.lt_log2_self (Nat.pow_le_pow_right (by decide) ?_)
  unfold gapExponent
  rw [precision_eq]
  omega

theorem divNearest_gap_le (num den : Nat) :
    divNearest num (den * 2 ^ gapExponent num den) ≤ 2 ^ precision :=
  divNearest_le (quotient_lt num den)

/-- The nearest magnitude to `num / den` units, if it lies below the limit. -/
def ofQuotient? (num den : Nat) : Option Magnitude :=
  if h : nearestUnits num den < limit then
    some (scaled _ _ (divNearest_gap_le num den) h)
  else none

end Magnitude

namespace Binary64

/-- `num / den` units with a sign; infinite when the nearest multiple of the gap is `2^1024`. -/
def round (negative : Bool) (num den : Nat) : Binary64 :=
  match Magnitude.ofQuotient? num den with
  | some a => .finite negative a
  | none => .infinite negative

end Binary64

end CutAndChoose
