import CutAndChoose.Soundness.Ratio

/-!
# CutAndChoose.Soundness.Term

Soundness error of cut-and-choose. Of `m` preprocessing executions `m - tau` are opened and `tau`
are used, with `n` simulated parties each. An adversary who prepares `rho` executions honestly
escapes with probability `C(rho, m - tau) / C(m, m - tau) / n ^ (rho + tau - m)`.

* `term`: that probability in binary64, `none` when it is not representable.
* `attacks`: the attack parameters `rho`, from `m - tau + 1` to `m`.
* `worstError`: the largest term over all attacks; a term that is not representable counts as zero.
* `termOfWords`, `worstErrorOfWords`: the same on 32-bit parameters, an `Overflow` when a sum or
  difference of them leaves the 32-bit word.
-/

namespace CutAndChoose

attribute [local instance (2000)] instPowNat

/-- Escape probability of the attack `rho`. -/
def term (m tau n rho : Nat) : Option Binary64 :=
  let guesses := Binary64.ofNat (n ^ (rho + tau - m))
  match ratio (binomial rho (m - tau)) (binomial m (m - tau)) with
  | none => none
  | some d =>
    if guesses.isFinite then
      let p := d / guesses
      if p.isFinite then some p else none
    else none

def firstAttack (m tau : Nat) : Nat := m - tau + 1

/-- The attack parameters of a pair, in increasing order; none when `tau` is zero. -/
def attacks (m tau : Nat) : List Nat :=
  List.range' (firstAttack m tau) (m + 1 - firstAttack m tau)

/-- The larger of two values; the first unless the second is strictly above it. -/
def Binary64.larger (x y : Binary64) : Binary64 := if x.lt y then y else x

def worstError (m tau n : Nat) : Binary64 :=
  (attacks m tau).foldl (fun worst rho => worst.larger ((term m tau n rho).getD .zero)) .zero

/-- Parameters with a sum or difference outside the 32-bit word. -/
structure Overflow where
  m : UInt32
  tau : UInt32
  deriving DecidableEq

def TermFits (m tau rho : Nat) : Prop := tau ≤ m ∧ m ≤ rho + tau ∧ rho + tau < UInt32.size

instance (m tau rho : Nat) : Decidable (TermFits m tau rho) :=
  inferInstanceAs (Decidable (_ ∧ _ ∧ _))

def termOfWords (m tau n rho : UInt32) : Except Overflow (Option Binary64) :=
  if TermFits m.toNat tau.toNat rho.toNat then .ok (term m.toNat tau.toNat n.toNat rho.toNat)
  else .error ⟨m, tau⟩

/-- The first attack and the terms of all attacks stay within 32 bits. The last attack is `m`,
so its sum `m + tau` is the largest. -/
def PairFits (m tau : Nat) : Prop :=
  tau ≤ m ∧ firstAttack m tau < UInt32.size ∧ (tau = 0 ∨ m + tau < UInt32.size)

instance (m tau : Nat) : Decidable (PairFits m tau) :=
  inferInstanceAs (Decidable (_ ∧ _ ∧ _))

def worstErrorOfWords (m tau n : UInt32) : Except Overflow Binary64 :=
  if PairFits m.toNat tau.toNat then .ok (worstError m.toNat tau.toNat n.toNat)
  else .error ⟨m, tau⟩

/-- The target error `2^-bits`, by repeated squaring of one half. -/
def targetError (bits : Int) : Binary64 := (Binary64.twoPow (-1)).pow bits

end CutAndChoose
