import CutAndChoose.Bench.Summary
import CutAndChoose.Command.Documents
import CutAndChoose.CommandLine.Command
import CutAndChoose.Search.Listing
import CutAndChoose.Trace.Filter

/-!
# CutAndChoose.Command.Run

Running a command: what it prints, what it reports about its work, and how it ends.

* `Run`: what a command printed, reported and failed with, before its events are filtered.
* `Command.run`: the script of a command.
* `Exit`: exit code and both output channels, as a process shows them.
* `invoke`: from arguments and log setting to an exit, or to the reason why there is no command.
-/

namespace CutAndChoose

open CommandLine

structure Run where
  stdout : String
  events : List Trace.Event
  fault : Option CommandFault

namespace Run

def failed (events : List Trace.Event) (fault : CommandFault) : Run :=
  ⟨"", events, some fault⟩

def exitCode (r : Run) : UInt8 := (r.fault.map (·.failure.exitCode)).getD 0

end Run

def runSearch (o : SearchOptions) : Script Run := do
  match search o.config with
  | .error f => return .failed [] (.search f)
  | .ok outcome =>
    let table := if o.verbose then "\n" ++ outcome.text else ""
    let stdout := resultText outcome.best ++ "\n" ++ table
    let events := Trace.searchEvents outcome
    match o.exportJson with
    | none => return ⟨stdout, events, none⟩
    | some path =>
      match ← writeOutcome path outcome with
      | .error f => return ⟨stdout, events, some f⟩
      | .ok () => return ⟨stdout, events ++ [.savedOutcome path], none⟩

def namesFor : Option String → Script (Except CommandFault (List String))
  | none => return .ok suiteNames
  | some path => readNames path

def runParseLog (o : LogOptions) : Script Run := do
  match ← namesFor o.names with
  | .error f => return .failed [] f
  | .ok names =>
    match ← readLogFile o.input names with
    | .error f => return .failed [] f
    | .ok reading =>
      let events := reading.rows.map .parsedEntry
      match reading.complete with
      | .error f => return .failed events f
      | .ok rows =>
        match ← writeTable o.output rows with
        | .error f => return .failed events f
        | .ok () => return ⟨summaryText rows o.output ++ "\n", events, none⟩

def runShow (path : String) : Script Run := do
  match ← readOutcome path with
  | .error f => return .failed [] f
  | .ok outcome =>
    return ⟨resultText outcome.best ++ "\n\n" ++ outcome.text, [], none⟩

def CommandLine.Command.run : Command → Script Run
  | .search options => runSearch options
  | .parseLog options => runParseLog options
  | .show path => runShow path

structure Exit where
  code : UInt8
  stdout : String
  stderr : String
  deriving DecidableEq

/-- The lines of the events that pass the filter, then the message of the fault. -/
def Run.exit (filter : Trace.Filter) (r : Run) : Exit :=
  let lines := (r.events.filter filter.passes).map (·.line)
  let message := (r.fault.map (·.failure.message ++ "\n")).getD ""
  ⟨r.exitCode, r.stdout, "".intercalate lines ++ message⟩

/-- Help and version are answers; every other refusal is a misuse. -/
def CommandLine.Refusal.exitCode : Refusal → UInt8
  | .helpAsked | .versionAsked => 0
  | _ => 2

/-- Runs the command that the arguments name, under a log setting. -/
def invoke (args : List String) (log : Option String) : Except Refusal (Script Exit) := do
  let command ← Command.read (withDefaultCommand args)
  return do return (← command.run).exit (Trace.filterOf log)

end CutAndChoose
