import CutAndChoose.Decimal.Notation

/-!
# CutAndChoose.Decimal.Fixed

Texts with a fixed number of places after the point: the exact value to the nearest multiple of
the last place, a tie to the even digit. The sign of a value that rounds to zero stays.
-/

namespace CutAndChoose

attribute [local instance (2000)] instPowNat

/-- A whole number of last places, with the point before the last `places` digits. -/
def pointBefore (places n : Nat) : List Char :=
  let ds := decimalDigits n
  let ds := zeros (places + 1 - ds.length) ++ ds
  ds.take (ds.length - places) ++ '.' :: ds.drop (ds.length - places)

def Binary64.fixedText (places : Nat) : Binary64 → List Char
  | .finite negative a =>
    Notation.signText negative ++
      pointBefore places (divNearest (a.units * 10 ^ places) Magnitude.one)
  | x => Notation.plain.text x

end CutAndChoose
