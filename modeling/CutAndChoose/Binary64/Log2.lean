import CutAndChoose.Binary64.Arithmetic
import CutAndChoose.Binary64.LogTable

/-!
# CutAndChoose.Binary64.Log2

Binary logarithm by a table and a polynomial. A positive number is `z * 2 ^ k` with `z` in
`[11/16, 11/8)`, and `z` is close to the node `c` of its piece, so that

`log2 (z * 2 ^ k) = k + log2 c + log2 (1 + r)` with `r = z / c - 1`.

Sums are kept as a leading part and a rest, so the result is off by little more than half a gap:
nearly always it is the number nearest to the logarithm, and otherwise the second nearest.
-/

namespace CutAndChoose

attribute [local instance (2000)] instPowNat

namespace Magnitude

/-- Exponent and fraction of a positive magnitude, read as one number. It is the word of the
magnitude, continued with the same step below the numbers of full precision. -/
def logPosition (a : Magnitude) : Int :=
  let e := a.units.log2
  ((e : Int) - fractionBits) * 2 ^ fractionBits + (a.units * 2 ^ fractionBits / 2 ^ e : Nat)

end Magnitude

namespace Cubic

/-- The polynomial at `r`, each half joined with one rounding. -/
def eval (p : Cubic) (r : Binary64) : Binary64 :=
  .mulAdd (r * r) (.mulAdd r p.c3 p.c2) (.mulAdd r p.c1 p.c0)

end Cubic

namespace Binary64

open Magnitude (fractionBits)

/-- A leading part and the rest that rounding cut off. -/
structure Split where
  lead : Binary64
  rest : Binary64

/-- The quotient `r / ln 2`. -/
def perLn2 (r : Binary64) : Split :=
  let lead := r * LogTable.perLn2
  ⟨lead, mulAdd r LogTable.perLn2Rest (mulAdd r LogTable.perLn2 (-lead))⟩

/-- The logarithm of a number close to `1`. -/
def log2Near (x : Binary64) : Binary64 :=
  let r := x - one
  let linear := perLn2 r
  let square := r * r
  let fourth := square * square
  let low := mulAdd r LogTable.nearThird LogTable.nearSecond
  let lead := mulAdd square low linear.lead
  let rest := linear.rest + mulAdd square low (linear.lead - lead)
  let high := mulAdd fourth (LogTable.nearTail.eval r) (LogTable.nearMiddle.eval r)
  lead + mulAdd fourth high rest

/-- The logarithm of `z * 2 ^ k`, for `z` in the piece of a node. -/
def log2Piece (k : Int) (z : Binary64) (node : LogNode) : Binary64 :=
  let r := mulAdd z node.reciprocal (-one)
  let linear := perLn2 r
  let whole := ofInt k + node.log
  let lead := whole + linear.lead
  let rest := whole - lead + linear.lead + linear.rest
  let square := r * r
  let fourth := square * square
  let high := mulAdd r LogTable.pieceSeventh LogTable.pieceSixth
  mulAdd square (mulAdd fourth high (LogTable.pieceCubic.eval r)) rest + lead

def log2Magnitude (a : Magnitude) : Binary64 :=
  let position := a.logPosition
  if LogTable.nearFrom ≤ position ∧ position < LogTable.nearBelow then log2Near (.finite false a)
  else
    let binade : Int := 2 ^ fractionBits
    let k := (position - LogTable.start) / binade
    let inside := ((position - LogTable.start) % binade).toNat
    let piece := Fin.ofNat 64 (64 * inside / 2 ^ fractionBits)
    log2Piece k (ofBits (.ofNat (LogTable.start + inside))) LogTable.nodes[piece]

/-- Zeros go to negative infinity, negative numbers to `nan`. -/
def log2 : Binary64 → Binary64
  | .finite negative a =>
    if a.units = 0 then .infinite true
    else if negative then .nan
    else log2Magnitude a
  | .infinite false => .infinite false
  | .infinite true => .nan
  | .nan => .nan

end Binary64

end CutAndChoose
