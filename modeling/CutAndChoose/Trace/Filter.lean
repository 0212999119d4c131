import CutAndChoose.Trace.Directive

/-!
# CutAndChoose.Trace.Filter

Which events are written. A filter is a list of directives, separated by commas. Of those that
apply to an event the most specific decides, and of two equally specific ones the later. A filter
with a malformed directive is no filter, and the default takes its place.
-/

namespace CutAndChoose.Trace

abbrev Filter := List Directive

def parseFilter (s : String) : Option Filter := do
  let directives ← ((s.splitOn ",").filter (· ≠ "")).mapM directive?
  return directives.filterMap id

/-- Warnings and errors of the library's own targets. -/
def defaultFilter : Filter := [⟨"kkw_params", none, 2⟩]

/-- The filter in force for a setting that may be absent or malformed. -/
def filterOf (setting : Option String) : Filter :=
  match setting.bind parseFilter with
  | some f => f
  | none => defaultFilter

/-- The more specific of two directives, the second in a tie. -/
def moreSpecific (a b : Directive) : Directive := if a.narrower b then a else b

/-- The level up to which an event like this one is written. -/
def Filter.threshold (f : Filter) (e : Event) : Threshold :=
  match f.filter (·.applies e) with
  | [] => 0
  | d :: ds => (ds.foldl moreSpecific d).threshold

def Filter.passes (f : Filter) (e : Event) : Bool := e.level.detail ≤ f.threshold e

end CutAndChoose.Trace
