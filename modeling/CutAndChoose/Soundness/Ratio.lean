import CutAndChoose.Soundness.Binomial
import CutAndChoose.Binary64.Arithmetic

/-!
# CutAndChoose.Soundness.Ratio

The quotient of two natural numbers as a binary64 number, also when either operand is far beyond
binary64. Each operand is cut to its own top 1000 bits and converted, the two are divided, and the
quotient is scaled by the difference of the cuts.

* `ratio`: the quotient, or `none` for a zero denominator or a quotient beyond binary64.
-/

namespace CutAndChoose

attribute [local instance (2000)] instPowNat

def operandBits : Nat := 1000

/-- Low bits that are cut off. -/
def cutBits (a : Nat) : Nat := bitLength a - operandBits

def topBits (a : Nat) : Binary64 := .ofNat (a / 2 ^ cutBits a)

namespace Binary64

/-- Powers of two are applied in steps of at most `2^1000`, itself a binary64 number. -/
def maxShift : Nat := 1000

/-- The product `x * 2 ^ e`: whole steps first, then the remaining power. All steps go the same way,
so a step that reaches zero or infinity settles the result. -/
def scale (x : Binary64) (e : Int) : Binary64 :=
  let step := twoPow (if e < 0 then -maxShift else maxShift)
  let rest := e.natAbs % maxShift
  let scaled := Nat.repeat (· * step) (e.natAbs / maxShift) x
  scaled * twoPow (if e < 0 then -rest else rest)

end Binary64

def ratio (numer denom : Nat) : Option Binary64 :=
  if denom = 0 then none
  else
    let q := (topBits numer / topBits denom).scale (cutBits numer - cutBits denom : Int)
    if q.isFinite then some q else none

end CutAndChoose
