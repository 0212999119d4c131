import CutAndChoose.Decimal.Shortest

/-!
# CutAndChoose.Decimal.Notation

Texts of binary64 numbers with the fewest digits that read back.

A `Notation` fixes what the digits leave open: where ties go, which sizes are written
positionally, whether a whole number keeps a point, and the sign of an exponent.

* `Notation.plain`: always positional, for tables and messages.
* `Notation.explicit`: marks whole numbers as fractional and turns to exponents outside
  `10^-4 .. 10^16`, for log fields.
* `Notation.json`: the same idea with the limits of the outcome files.
-/

namespace CutAndChoose

def decimalDigits (n : Nat) : List Char := Nat.toDigits 10 n

def zeros (n : Nat) : List Char := List.replicate n '0'

structure Notation where
  tie : Tie
  /-- Whether a number whose leading digit stands for `10^e` is written without exponent. -/
  positional : Int → Bool
  /-- What follows a whole number in positional notation. -/
  wholeEnd : List Char
  /-- What precedes a positive exponent. -/
  positiveExponent : List Char

namespace Notation

/-- The number `digits * 10 ^ exponent` with its point in place. -/
def positionalText (f : Notation) (d : Decimal) : List Char :=
  let ds := decimalDigits d.digits
  if 0 ≤ d.exponent then ds ++ zeros d.exponent.toNat ++ f.wholeEnd
  else
    let places := (-d.exponent).toNat
    if places < ds.length then
      ds.take (ds.length - places) ++ '.' :: ds.drop (ds.length - places)
    else '0' :: '.' :: (zeros (places - ds.length) ++ ds)

def leading (d : Decimal) : Int := d.exponent + (decimalDigits d.digits).length - 1

/-- One digit before the point, then the exponent of that digit. -/
def exponentText (f : Notation) (d : Decimal) : List Char :=
  let mantissa := match decimalDigits d.digits with
    | [] => []
    | [c] => [c]
    | c :: rest => c :: '.' :: rest
  let e := leading d
  let sign := if e < 0 then ['-'] else f.positiveExponent
  mantissa ++ 'e' :: (sign ++ decimalDigits e.natAbs)

def magnitudeText (f : Notation) (a : Magnitude) : List Char :=
  let d := a.shortest f.tie
  if f.positional (leading d) then f.positionalText d else f.exponentText d

def signText (negative : Bool) : List Char := if negative then ['-'] else []

def text (f : Notation) : Binary64 → List Char
  | .finite negative a => signText negative ++ f.magnitudeText a
  | .infinite negative => signText negative ++ ['i', 'n', 'f']
  | .nan => ['N', 'a', 'N']

def plain : Notation := ⟨.up, fun _ => true, [], []⟩

def explicit : Notation := ⟨.up, fun e => -4 ≤ e ∧ e < 16, ['.', '0'], []⟩

def json : Notation := ⟨.even, fun e => -5 ≤ e ∧ e < 16, ['.', '0'], ['+']⟩

end Notation

end CutAndChoose
