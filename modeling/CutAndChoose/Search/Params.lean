/-!
# CutAndChoose.Search.Params

Parameter pairs `(m, tau)`: `m` preprocessing executions of which `tau` are used.

* `Params.Before`: fewer repetitions first, then fewer executions.
* `bestOf`: the best of a list, starting from a sentinel.

Repetitions dominate the size of a proof, so the order looks at `tau` first.
-/

namespace CutAndChoose

structure Params where
  m : UInt32
  tau : UInt32
  deriving DecidableEq

namespace Params

/-- What a search reports when no pair was accepted. -/
def sentinel : Params := ⟨10000, 10000⟩

def isSentinel (p : Params) : Bool := p = sentinel

def text (p : Params) : String := s!"({p.m.toNat}, {p.tau.toNat})"

/-- Strictly better: smaller `tau`, or equal `tau` and smaller `m`. -/
def Before (p q : Params) : Prop := p.tau < q.tau ∨ (p.tau = q.tau ∧ p.m < q.m)

instance (p q : Params) : Decidable (Before p q) := inferInstanceAs (Decidable (_ ∨ _))

theorem not_before_self (p : Params) : ¬ p.Before p := by
  simp [Before, UInt32.lt_irrefl]

/-- Any two pairs are comparable. -/
theorem before_trichotomy (p q : Params) : p.Before q ∨ p = q ∨ q.Before p := by
  cases p
  cases q
  simp only [Before, mk.injEq, UInt32.lt_iff_toNat_lt, ← UInt32.toNat_inj]
  omega

/-- One entry of the scan: a strictly smaller `tau` replaces the best, and then an equal `tau` with
a strictly smaller `m` replaces what is the best by now. -/
def improve (best p : Params) : Params :=
  let best := if p.tau < best.tau then p else best
  if p.m < best.m ∧ p.tau = best.tau then p else best

end Params

def bestOf (pairs : List Params) : Params :=
  pairs.foldl Params.improve .sentinel

end CutAndChoose
