import CutAndChoose.Bench.Measurement
import CutAndChoose.Decimal.Notation
import CutAndChoose.Search.Outcome

/-!
# CutAndChoose.Trace.Event

What the library reports about its own work. An event has a level, a target that says which part
reports it, a message and named fields.
-/

namespace CutAndChoose.Trace

inductive Level where
  | error
  | warn
  | info
  | debug
  | trace
  deriving DecidableEq

/-- Severity as a number; a more detailed level has a larger one. -/
def Level.detail : Level → Nat
  | error => 1
  | warn => 2
  | info => 3
  | debug => 4
  | trace => 5

def Level.text : Level → String
  | error => "ERROR"
  | warn => " WARN"
  | info => " INFO"
  | debug => "DEBUG"
  | trace => "TRACE"

inductive Event where
  | evaluated (e : Evaluation)
  | searched (pairs accepted : Nat) (best : Params)
  | savedOutcome (path : String)
  | parsedEntry (row : Measurement)

namespace Event

def level : Event → Level
  | evaluated _ => .debug
  | searched _ _ _ => .info
  | savedOutcome _ => .info
  | parsedEntry _ => .debug

def target : Event → String
  | evaluated _ => "kkw_params::search"
  | searched _ _ _ => "kkw_params::search"
  | savedOutcome _ => "kkw_params::app"
  | parsedEntry _ => "kkw_params::io::bench_log"

def floatText (x : Binary64) : String := String.ofList (Notation.explicit.text x)

def message : Event → String
  | evaluated _ => "evaluated pair"
  | searched _ _ _ => "parameter search finished"
  | savedOutcome _ => "wrote outcome JSON"
  | parsedEntry _ => "parsed benchmark entry"

/-- The named values of an event, in the order in which they are written. -/
def fields : Event → List (String × String)
  | evaluated e => [("m", toString e.params.m.toNat), ("tau", toString e.params.tau.toNat),
      ("worst_error", floatText e.worstError), ("accepted", toString e.accepted)]
  | searched pairs accepted best => [("evaluated", toString pairs),
      ("accepted", toString accepted), ("best", best.text)]
  | savedOutcome path => [("path", path)]
  | parsedEntry row => [("circuit", row.circuit), ("size_bytes", toString row.sizeBytes.toNat),
      ("time_ms", floatText row.timeMs)]

/-- What a filter can ask for: the message counts as a field. -/
def fieldNames (e : Event) : List String := "message" :: e.fields.map (·.1)

def text (e : Event) : String :=
  e.fields.foldl (fun line (name, value) => s!"{line} {name}={value}") e.message

def line (e : Event) : String := s!"{e.level.text} {e.target}: {e.text}\n"

end Event

/-- The events of a search: one per pair, then the result. -/
def searchEvents (o : Outcome) : List Event :=
  o.evaluations.map .evaluated ++
    [.searched o.evaluations.length o.accepted.length o.best]

end CutAndChoose.Trace
