import CutAndChoose.Decimal.Basic

/-!
# CutAndChoose.Decimal.Shortest

The shortest decimal that reads back as a given magnitude.

On the grid of multiples of `10^k` only the two neighbours of the value can be nearest to it. The
grids are tried from coarse to fine; the first on which a neighbour reads back has the fewest
digits, and of two neighbours that read back the nearer is taken. Seventeen digits always
suffice; the exact expansion behind the search closes the definition.

* `Magnitude.shortest tie a`: that decimal, an exact tie going as `tie` says.
-/

namespace CutAndChoose

attribute [local instance (2000)] instPowNat

/-- Where an exact tie between two neighbours goes. -/
inductive Tie where
  | up
  | even
  deriving DecidableEq

namespace Magnitude

/-- Whether a decimal rounds to `a`. -/
def readBy (a : Magnitude) (d : Decimal) : Bool := d.magnitude? == some a

/-- The value of `a` over `10^k` as a quotient of natural numbers. -/
def overPowerOfTen (a : Magnitude) (k : Int) : Nat × Nat :=
  if 0 ≤ k then (a.units, one * 10 ^ k.toNat)
  else (a.units * 10 ^ (-k).toNat, one)

/-- The neighbour of `a` on the grid of multiples of `10^k` that reads back, if any. -/
def neighbour? (tie : Tie) (a : Magnitude) (k : Int) : Option Decimal :=
  let (num, den) := a.overPowerOfTen k
  let below : Decimal := ⟨num / den, k⟩
  let above : Decimal := ⟨num / den + 1, k⟩
  let twice := 2 * (num % den)
  let preferBelow := twice < den ∨ (twice = den ∧ tie = .even ∧ below.digits % 2 = 0)
  let (first, second) := if preferBelow then (below, above) else (above, below)
  if a.readBy first then some first
  else if a.readBy second then some second
  else none

/-- A power of ten at or above `a`, from the length of `a` in binary digits. -/
def decimalBound (a : Magnitude) : Int :=
  ((a.units.log2 + 1 : Int) - unitPlaces) * 30103 / 100000 + 1

/-- All digits of `a`: a unit is `5^1074 / 10^1074`. -/
def expansion (a : Magnitude) : Decimal := ⟨a.units * 5 ^ unitPlaces, -unitPlaces⟩

def shortest (tie : Tie) (a : Magnitude) : Decimal :=
  if a.units = 0 then ⟨0, 0⟩
  else
    ((List.range 20).findSome? fun (i : Nat) => a.neighbour? tie (a.decimalBound - i)).getD
      a.expansion

end Magnitude

end CutAndChoose
