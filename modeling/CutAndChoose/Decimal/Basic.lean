import CutAndChoose.Binary64.Arithmetic

/-!
# CutAndChoose.Decimal.Basic

Decimal numbers `digits * 10 ^ exponent` and the binary64 number nearest to one.

* `Decimal.magnitude?`: the nearest magnitude, or `none` from the overflow threshold on. Exponents
  far outside the range of binary64 are settled without forming the power of ten.
* `Decimal.ofNumeral`: the decimal written by a whole part and a fraction part.
-/

namespace CutAndChoose

attribute [local instance (2000)] instPowNat

structure Decimal where
  digits : Nat
  exponent : Int
  deriving DecidableEq

namespace Decimal

/-- The value `digits * 10 ^ -k` is below a quarter of the least magnitude, because each factor ten
takes more than three binary digits. -/
def Negligible (digits k : Nat) : Prop := digits.log2 + 1077 < 3 * k

instance (digits k : Nat) : Decidable (Negligible digits k) :=
  inferInstanceAs (Decidable (_ < _))

def magnitude? (d : Decimal) : Option Magnitude :=
  if d.digits = 0 then some .zero
  else if 0 ≤ d.exponent then
    if 400 < d.exponent then none
    else Magnitude.ofQuotient? (d.digits * 10 ^ d.exponent.toNat * Magnitude.one) 1
  else
    let k := (-d.exponent).toNat
    if Negligible d.digits k then some .zero
    else Magnitude.ofQuotient? (d.digits * Magnitude.one) (10 ^ k)

/-- The nearest binary64 number, infinite past the overflow threshold. -/
def toBinary64 (negative : Bool) (d : Decimal) : Binary64 :=
  match d.magnitude? with
  | some a => .finite negative a
  | none => .infinite negative

def ofNumeral (whole fraction : List Char) : Decimal :=
  ⟨Nat.ofDigitChars 10 (whole ++ fraction) 0, -fraction.length⟩

end Decimal

end CutAndChoose
