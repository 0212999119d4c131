import CutAndChoose.Decimal.Notation
import CutAndChoose.Search.Params
import CutAndChoose.Search.Sweep
import CutAndChoose.Soundness.Term

/-!
# CutAndChoose.Search.Config

The input of a search: the number of simulated parties, the target error and the sweeps of `m` and
`tau`.

* `Config.check`: refuses a config whose terms would be ill-formed. The largest visited `tau` may
  not exceed the smallest `m`, so `m - tau` is a difference of natural numbers for every pair.
* `Config.pairs`: the grid of pairs, `m` in the outer loop.

Memory is unlimited here: a grid is the list of all its pairs, however many there are. A program
that reserves room for the whole grid, eight bytes for each pair, aborts from `2^60` pairs on, and
finds no memory for far smaller grids.
-/

namespace CutAndChoose

structure Config where
  parties : UInt32
  target : Binary64
  mSweep : Sweep
  tauSweep : Sweep
  deriving DecidableEq

namespace Config

def defaultParties : UInt32 := 16
def defaultSecurityBits : Int := 60

def default : Config :=
  ⟨defaultParties, targetError defaultSecurityBits, ⟨64, 512, 8⟩, ⟨8, 50, 8⟩⟩

inductive Fault where
  | fewParties (parties : UInt32)
  | badTarget (target : Binary64)
  | sweep (fault : Sweep.Fault)
  | zeroStart
  | tauAboveM (tau m : UInt32)
  deriving DecidableEq

namespace Fault

def message : Fault → String
  | fewParties n => s!"Simulated-party count must be >= 2 (got {n.toNat})."
  | badTarget t =>
    s!"Target error must be finite and > 0 (got {String.ofList (Notation.plain.text t)})."
  | sweep f => f.message
  | zeroStart => "M and tau ranges must start at >= 1."
  | tauAboveM tau m => s!"Largest tau ({tau.toNat}) exceeds smallest M ({m.toNat})."

def failure (f : Fault) : Failure := .input f.message

end Fault

def checkSweep (s : Sweep) (label : String) : Except Fault Unit :=
  (s.check label).mapError .sweep

def check (c : Config) : Except Fault Unit := do
  if c.parties < 2 then throw (.fewParties c.parties)
  if !(c.target.isFinite && Binary64.zero.lt c.target) then throw (.badTarget c.target)
  checkSweep c.mSweep "M"
  checkSweep c.tauSweep "tau"
  if c.mSweep.start = 0 ∨ c.tauSweep.start = 0 then throw .zeroStart
  let largest := c.tauSweep.last?.getD c.tauSweep.start
  if c.mSweep.start < largest then throw (.tauAboveM largest c.mSweep.start)

/-- All pairs of the two sweeps, `tau` varying fastest. -/
def pairs (c : Config) : List Params :=
  c.mSweep.values.flatMap fun m => c.tauSweep.values.map fun tau => ⟨m, tau⟩

def grid (c : Config) : Except Fault (List Params) := do
  c.check
  return c.pairs

end Config

end CutAndChoose
