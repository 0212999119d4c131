/-!
# CutAndChoose.Soundness.Binomial

Exact binomial coefficients. The soundness terms need `C(M, M - tau)` for `M` in the hundreds,
far beyond any machine word, so they are natural numbers here and become binary64 only as a ratio.
-/

namespace CutAndChoose

/-- The coefficient `C(base + k, k)`: multiplying and dividing in lockstep keeps every intermediate
value a binomial coefficient, so no division leaves a remainder. -/
def risingBinomial (base : Nat) : Nat → Nat
  | 0 => 1
  | k + 1 => risingBinomial base k * (base + (k + 1)) / (k + 1)

/-- The coefficient `C(n, r)`, from the smaller of `r` and `n - r` factors; zero when `n < r`. -/
def binomial (n r : Nat) : Nat :=
  if n < r then 0
  else
    let k := min r (n - r)
    risingBinomial (n - k) k

/-- Number of binary digits; zero has none. -/
def bitLength (a : Nat) : Nat := if a = 0 then 0 else a.log2 + 1

end CutAndChoose
