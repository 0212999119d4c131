import CutAndChoose.Search.Config

/-!
# CutAndChoose.Search.Outcome

A search evaluates every pair of the grid, accepts the pairs whose worst-case error lies strictly
below the target, and selects the best of them.

* `Config.outcome`: the result on a config whose pairs are all well-formed.
* `search`: the same behind the check of the config and of the 32-bit sums.

Memory is unlimited here, for the grid and for the evaluations, so nothing but a sum beyond the
32-bit word aborts a search.
-/

namespace CutAndChoose

structure Evaluation where
  params : Params
  worstError : Binary64
  accepted : Bool
  deriving DecidableEq

structure Outcome where
  config : Config
  evaluations : List Evaluation
  accepted : List Params
  best : Params
  deriving DecidableEq

namespace Config

def evaluate (config : Config) (p : Params) : Evaluation :=
  let worst := worstError p.m.toNat p.tau.toNat config.parties.toNat
  ⟨p, worst, worst.lt config.target⟩

def outcome (config : Config) : Outcome :=
  let evaluations := config.pairs.map config.evaluate
  let accepted := (evaluations.filter (·.accepted)).map (·.params)
  ⟨config, evaluations, accepted, bestOf accepted⟩

end Config

inductive SearchFault where
  | config (fault : Config.Fault)
  /-- The sum `m + tau` of a visited pair leaves the 32-bit word. -/
  | overflow (pair : Overflow)
  deriving DecidableEq

namespace SearchFault

/-- An overflow is no refusal but an abort, with the exit code of one. -/
def failure : SearchFault → Failure
  | config f => f.failure
  | overflow p => ⟨101, s!"overflow in the attack parameters of ({p.m.toNat}, {p.tau.toNat})"⟩

end SearchFault

def Params.fits (p : Params) : Bool := PairFits p.m.toNat p.tau.toNat

def search (config : Config) : Except SearchFault Outcome :=
  match config.check with
  | .error f => .error (.config f)
  | .ok () =>
    match config.pairs.find? (!·.fits) with
    | some p => .error (.overflow ⟨p.m, p.tau⟩)
    | none => .ok config.outcome

end CutAndChoose
