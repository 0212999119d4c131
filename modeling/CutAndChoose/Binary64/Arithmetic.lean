import CutAndChoose.Binary64.Round

/-!
# CutAndChoose.Binary64.Arithmetic

Sum, product and quotient, each the exact result rounded once, a sum with a product likewise, and
what is built from them: conversion of integers, powers of two, powers by repeated squaring.

A sum that is exactly zero is negative only if both terms are. A product or quotient is negative
when exactly one operand is.
-/

namespace CutAndChoose

attribute [local instance (2000)] instPowNat

/-- The number `1` in units of `2^-1074`. -/
def Magnitude.one : Nat := 2 ^ unitPlaces

namespace Binary64

def ofNat (n : Nat) : Binary64 := round false (n * Magnitude.one) 1

def one : Binary64 := ofNat 1

def ofInt (i : Int) : Binary64 := round (decide (i < 0)) (i.natAbs * Magnitude.one) 1

/-- The power `2 ^ e`, rounded: zero far below the least magnitude, infinite from `2^1024` on. -/
def twoPow (e : Int) : Binary64 :=
  if e < 0 then round false Magnitude.one (2 ^ (-e).toNat)
  else round false (2 ^ e.toNat * Magnitude.one) 1

def mul : Binary64 → Binary64 → Binary64
  | .nan, _ | _, .nan => .nan
  | .finite n a, .finite n' b => round (n != n') (a.units * b.units) Magnitude.one
  | .finite n a, .infinite n' => if a.units = 0 then .nan else .infinite (n != n')
  | .infinite n, .finite n' b => if b.units = 0 then .nan else .infinite (n != n')
  | .infinite n, .infinite n' => .infinite (n != n')

def div : Binary64 → Binary64 → Binary64
  | .nan, _ | _, .nan => .nan
  | .finite n a, .finite n' b =>
    if b.units = 0 then
      if a.units = 0 then .nan else .infinite (n != n')
    else round (n != n') (a.units * Magnitude.one) b.units
  | .finite n _, .infinite n' => .finite (n != n') .zero
  | .infinite n, .finite n' _ => .infinite (n != n')
  | .infinite _, .infinite _ => .nan

/-- A magnitude with a sign, in units. -/
def signedUnits (negative : Bool) (a : Magnitude) : Int := if negative then -a.units else a.units

def add : Binary64 → Binary64 → Binary64
  | .nan, _ | _, .nan => .nan
  | .finite n a, .finite n' b =>
    let i := signedUnits n a + signedUnits n' b
    if i = 0 then .finite (n && n') .zero else round (decide (i < 0)) i.natAbs 1
  | .finite _ _, .infinite n => .infinite n
  | .infinite n, .finite _ _ => .infinite n
  | .infinite n, .infinite n' => if n = n' then .infinite n else .nan

instance : Neg Binary64 := ⟨neg⟩
instance : Add Binary64 := ⟨add⟩
instance : Sub Binary64 := ⟨fun x y => add x (neg y)⟩
instance : Mul Binary64 := ⟨mul⟩
instance : Div Binary64 := ⟨div⟩

/-- The sum `x * y + z`, rounded once. -/
def mulAdd : Binary64 → Binary64 → Binary64 → Binary64
  | .finite n a, .finite n' b, .finite n'' c =>
    let product : Int := a.units * b.units
    let i : Int :=
      (if n != n' then -product else product) + signedUnits n'' c * Magnitude.one
    if i = 0 then .finite ((n != n') && n'') .zero
    else round (decide (i < 0)) i.natAbs Magnitude.one
  | .finite _ _, .finite _ _, z => z
  | x, y, z => x * y + z

/-- The product `acc * x ^ k` by repeated squaring, lowest digit of `k` first. -/
def mulPow (acc x : Binary64) (k : Nat) : Binary64 :=
  let acc := if k % 2 = 1 then acc * x else acc
  if k / 2 = 0 then acc else mulPow acc (x * x) (k / 2)
termination_by k

/-- The power `x ^ e`; for a negative exponent the reciprocal of the positive power. -/
def pow (x : Binary64) (e : Int) : Binary64 :=
  let p := mulPow one x e.natAbs
  if e < 0 then one / p else p

end Binary64

end CutAndChoose
