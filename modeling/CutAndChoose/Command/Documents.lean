import CutAndChoose.Bench.Names
import CutAndChoose.Bench.Table
import CutAndChoose.Command.Fault
import CutAndChoose.Files.Script
import CutAndChoose.Search.OutcomeFile

/-!
# CutAndChoose.Command.Documents

The files that the commands read and write: names files, benchmark logs, tables and outcomes.
-/

namespace CutAndChoose

def readText (path : String) : Script (Except TextFault String) := do
  match ← Script.readFile path with
  | .error f => return .error (.file f)
  | .ok bytes => return decodeText bytes

/-- The circuit names in a file; a file without any is refused. -/
def readNames (path : String) : Script (Except CommandFault (List String)) := do
  match ← readText path with
  | .error f => return .error (.namesUnreadable path f)
  | .ok text =>
    let names := namesOf text
    return if names.isEmpty then .error (.namesEmpty path) else .ok names

/-- What reading a log file gives, up to its end or its first fault. -/
def readLogFile (path : String) (names : List String) :
    Script (Except CommandFault LogReading) := do
  match ← readText path with
  | .error f => return .error (.logUnreadable path f)
  | .ok text => return .ok (readLog text names)

def LogReading.complete (r : LogReading) : Except CommandFault (List Measurement) :=
  match r.fault with
  | some f => .error (.log f)
  | none => .ok r.rows

def readMeasurements (path : String) (names : List String) :
    Script (Except CommandFault (List Measurement)) := do
  match ← readLogFile path names with
  | .error f => return .error f
  | .ok reading => return reading.complete

def writeTable (path : String) (rows : List Measurement) : Script (Except CommandFault Unit) := do
  return (← Script.writeFile path (tableText rows).toUTF8).mapError (.tableNotCreated path)

def writeOutcome (path : String) (o : Outcome) : Script (Except CommandFault Unit) := do
  return (← Script.writeFile path o.json.toUTF8).mapError (.outcomeNotCreated path)

/-- A directory can be opened like a file, but gives no bytes. -/
def readOutcome (path : String) : Script (Except CommandFault Outcome) := do
  match ← Script.readFile path with
  | .error .isDirectory => return .error (.outcomeUnreadable .isDirectory)
  | .error f => return .error (.outcomeNotOpened path f)
  | .ok bytes => return (Outcome.ofJson bytes).mapError .outcomeInvalid

end CutAndChoose
