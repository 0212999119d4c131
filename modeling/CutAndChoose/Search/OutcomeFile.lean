import CutAndChoose.Json.Layout
import CutAndChoose.Json.Record
import CutAndChoose.Search.Outcome

/-!
# CutAndChoose.Search.OutcomeFile

Outcomes as JSON files: the config, every evaluated pair, the accepted pairs and the best one.

* `Outcome.json`: the written text.
* `Outcome.ofJson`: reads the bytes of such a file.

Each record is written and read by the same field names.
-/

namespace CutAndChoose

open Json

def Sweep.layout (depth : Nat) (s : Sweep) : List Char :=
  objectLayout depth [("start", word32Layout s.start), ("end", word32Layout s.stop),
    ("step", word32Layout s.step)]

def Params.layout (depth : Nat) (p : Params) : List Char :=
  objectLayout depth [("m", word32Layout p.m), ("tau", word32Layout p.tau)]

def Evaluation.layout (depth : Nat) (e : Evaluation) : List Char :=
  objectLayout depth [("candidate", e.params.layout (depth + 1)),
    ("worst_error", floatLayout e.worstError), ("accepted", boolLayout e.accepted)]

def Config.layout (depth : Nat) (c : Config) : List Char :=
  objectLayout depth [("parties", word32Layout c.parties), ("target", floatLayout c.target),
    ("m_range", c.mSweep.layout (depth + 1)), ("tau_range", c.tauSweep.layout (depth + 1))]

def Outcome.layout (o : Outcome) : List Char :=
  objectLayout 0 [("config", o.config.layout 1),
    ("evaluations", listLayout 1 (o.evaluations.map (·.layout 2))),
    ("candidates", listLayout 1 (o.accepted.map (·.layout 2))),
    ("best", o.best.layout 1)]

def Outcome.json (o : Outcome) : String := String.ofList o.layout

structure SweepSlots where
  start : Option UInt32
  stop : Option UInt32
  step : Option UInt32

def sweepShape : Shape SweepSlots Sweep where
  title := "struct StepRange"
  empty := ⟨none, none, none⟩
  fields := [
    .slot "start" (·.start) (fun s a => { s with start := some a }) readWord32,
    .slot "end" (·.stop) (fun s a => { s with stop := some a }) readWord32,
    .slot "step" (·.step) (fun s a => { s with step := some a }) readWord32]
  result s := do
    return ⟨← require "start" s.start, ← require "end" s.stop, ← require "step" s.step⟩

structure ParamsSlots where
  m : Option UInt32
  tau : Option UInt32

def paramsShape : Shape ParamsSlots Params where
  title := "struct Candidate"
  empty := ⟨none, none⟩
  fields := [
    .slot "m" (·.m) (fun s a => { s with m := some a }) readWord32,
    .slot "tau" (·.tau) (fun s a => { s with tau := some a }) readWord32]
  result s := do return ⟨← require "m" s.m, ← require "tau" s.tau⟩

structure EvaluationSlots where
  params : Option Params
  worstError : Option Binary64
  accepted : Option Bool

def evaluationShape : Shape EvaluationSlots Evaluation where
  title := "struct Evaluation"
  empty := ⟨none, none, none⟩
  fields := [
    .slot "candidate" (·.params) (fun s a => { s with params := some a })
      (readRecord paramsShape),
    .slot "worst_error" (·.worstError) (fun s a => { s with worstError := some a }) readFloat,
    .slot "accepted" (·.accepted) (fun s a => { s with accepted := some a }) readBool]
  result s := do
    return ⟨← require "candidate" s.params, ← require "worst_error" s.worstError,
      ← require "accepted" s.accepted⟩

structure ConfigSlots where
  parties : Option UInt32
  target : Option Binary64
  mSweep : Option Sweep
  tauSweep : Option Sweep

def configShape : Shape ConfigSlots Config where
  title := "struct SearchConfig"
  empty := ⟨none, none, none, none⟩
  fields := [
    .slot "parties" (·.parties) (fun s a => { s with parties := some a }) readWord32,
    .slot "target" (·.target) (fun s a => { s with target := some a }) readFloat,
    .slot "m_range" (·.mSweep) (fun s a => { s with mSweep := some a }) (readRecord sweepShape),
    .slot "tau_range" (·.tauSweep) (fun s a => { s with tauSweep := some a })
      (readRecord sweepShape)]
  result s := do
    return ⟨← require "parties" s.parties, ← require "target" s.target,
      ← require "m_range" s.mSweep, ← require "tau_range" s.tauSweep⟩

structure OutcomeSlots where
  config : Option Config
  evaluations : Option (List Evaluation)
  accepted : Option (List Params)
  best : Option Params

def outcomeShape : Shape OutcomeSlots Outcome where
  title := "struct SearchOutcome"
  empty := ⟨none, none, none, none⟩
  fields := [
    .slot "config" (·.config) (fun s a => { s with config := some a }) (readRecord configShape),
    .slot "evaluations" (·.evaluations) (fun s a => { s with evaluations := some a })
      (readList (readRecord evaluationShape)),
    .slot "candidates" (·.accepted) (fun s a => { s with accepted := some a })
      (readList (readRecord paramsShape)),
    .slot "best" (·.best) (fun s a => { s with best := some a }) (readRecord paramsShape)]
  result s := do
    return ⟨← require "config" s.config, ← require "evaluations" s.evaluations,
      ← require "candidates" s.accepted, ← require "best" s.best⟩

def Outcome.ofJson (bytes : ByteArray) : Except Json.Fault Outcome :=
  readAll (readRecord outcomeShape) bytes.data.toList

end CutAndChoose
