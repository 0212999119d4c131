import CutAndChoose.Bench.Duration
import CutAndChoose.Bench.Measurement
import CutAndChoose.Failure
import CutAndChoose.Text.Lines

/-!
# CutAndChoose.Bench.Log

Benchmark logs. Per circuit the prover prints a line with the size of the serialized proof and then
a line with the elapsed time; all other lines are ignored. Circuits run in a fixed order, so entries
get their names by position.

* `LogState`: the finished rows and the size that still waits for its time.
* `readLine`: what one line does to the state, or why the log is refused there.
* `readLog`: the rows read until the end or until the first fault.
* `measurementsOf`: the rows of a log that has an entry for every name.
-/

namespace CutAndChoose

def sizeMark : List Char := "The size of the serialized object".toList
def timingMark : List Char := "Elapsed".toList

structure LogState where
  rows : List Measurement
  /-- Circuit and size of the entry whose time has not come yet. -/
  waiting : Option (String × UInt64)
  deriving DecidableEq

inductive LineFault where
  | sizeBeforeTiming (circuit : String)
  | moreSizesThanNames (names : Nat)
  | noSize (line : String)
  | sizeOutOfRange (digits : String)
  | timingBeforeSize
  | noTiming (line : String)
  | badTiming (value : String)
  deriving DecidableEq

inductive LogFault where
  /-- A fault of one line; lines count from one. -/
  | onLine (line : Nat) (fault : LineFault)
  | endsBeforeTiming (circuit : String)
  | fewEntries (entries names : Nat)
  deriving DecidableEq

def LineFault.message : LineFault → String
  | sizeBeforeTiming circuit => s!"size line before the timing of '{circuit}'."
  | moreSizesThanNames n => s!"more size lines than circuit names ({n})."
  | noSize line => s!"no size value in '{line}'."
  | sizeOutOfRange digits => s!"size {digits} out of range."
  | timingBeforeSize => "timing line without a preceding size line."
  | noTiming line => s!"no timing value in '{line}'."
  | badTiming value => s!"invalid timing value '{value}'."

def LogFault.message : LogFault → String
  | onLine line fault => s!"Line {line}: {fault.message}"
  | endsBeforeTiming circuit => s!"Log ends before the timing of '{circuit}'."
  | fewEntries entries names =>
    s!"Log has {entries} complete entries but {names} circuit names are expected."

def LogFault.failure (f : LogFault) : Failure := .input f.message

def sizeOnLine (line : List Char) : Except LineFault UInt64 :=
  let digits := (firstRun Char.isDigit line).1
  if digits = [] then .error (.noSize (String.ofList line))
  else
    let n := Nat.ofDigitChars 10 digits 0
    if n < UInt64.size then .ok (UInt64.ofNat n)
    else .error (.sizeOutOfRange (String.ofList digits))

def timeOnLine (line : List Char) : Except LineFault Binary64 :=
  match durationOf line with
  | .ok t => .ok t
  | .error .absent => .error (.noTiming (String.ofList line))
  | .error (.malformed value) => .error (.badTiming value)

def readSize (names : List String) (s : LogState) (line : List Char) :
    Except LineFault LogState :=
  match s.waiting with
  | some (circuit, _) => .error (.sizeBeforeTiming circuit)
  | none =>
    match names[s.rows.length]? with
    | none => .error (.moreSizesThanNames names.length)
    | some circuit =>
      match sizeOnLine line with
      | .error f => .error f
      | .ok size => .ok ⟨s.rows, some (circuit, size)⟩

def readTiming (s : LogState) (line : List Char) : Except LineFault LogState :=
  match s.waiting with
  | none => .error .timingBeforeSize
  | some (circuit, size) =>
    match timeOnLine line with
    | .error f => .error f
    | .ok time => .ok ⟨s.rows ++ [⟨circuit, size, time⟩], none⟩

def readLine (names : List String) (s : LogState) (line : List Char) :
    Except LineFault LogState :=
  if sizeMark.isPrefixOf line then readSize names s line
  else if timingMark.isPrefixOf line then readTiming s line
  else .ok s

/-- What is missing when the log ends. -/
def LogState.missing? (names : List String) (s : LogState) : Option LogFault :=
  match s.waiting with
  | some (circuit, _) => some (.endsBeforeTiming circuit)
  | none =>
    if s.rows.length < names.length then some (.fewEntries s.rows.length names.length) else none

/-- The rows finished before the end or before the fault, and the fault. -/
structure LogReading where
  rows : List Measurement
  fault : Option LogFault
  deriving DecidableEq

/-- Reads lines from number `k` on. -/
def readLines (names : List String) (k : Nat) (s : LogState) : List (List Char) → LogReading
  | [] => ⟨s.rows, s.missing? names⟩
  | line :: rest =>
    match readLine names s line with
    | .error f => ⟨s.rows, some (.onLine k f)⟩
    | .ok s' => readLines names (k + 1) s' rest

def readLog (text : String) (names : List String) : LogReading :=
  readLines names 1 ⟨[], none⟩ (textLines text.toList)

def measurementsOf (text : String) (names : List String) : Except LogFault (List Measurement) :=
  let reading := readLog text names
  match reading.fault with
  | some f => .error f
  | none => .ok reading.rows

end CutAndChoose
