import CutAndChoose.CommandLine.Grammar
import CutAndChoose.Search.Config

/-!
# CutAndChoose.CommandLine.Command

The commands and their options.

* `search`: look for the best pair, print it and optionally all accepted pairs and a JSON file.
* `parse-log`: turn a benchmark log into a table.
* `show`: print a saved outcome.
* `Command.read`: the command that the arguments name.
* `withDefaultCommand`: arguments without a command mean `search`.
-/

namespace CutAndChoose.CommandLine

structure SearchOptions where
  parties : UInt32
  securityBits : Int32
  mStart : UInt32
  mEnd : UInt32
  mStep : UInt32
  tauStart : UInt32
  tauEnd : UInt32
  tauStep : UInt32
  verbose : Bool
  exportJson : Option String
  deriving DecidableEq

structure LogOptions where
  input : String
  output : String
  names : Option String
  deriving DecidableEq

inductive Command where
  | search (options : SearchOptions)
  | parseLog (options : LogOptions)
  | show (path : String)
  deriving DecidableEq

def SearchOptions.config (o : SearchOptions) : Config :=
  ⟨o.parties, targetError o.securityBits.toInt, ⟨o.mStart, o.mEnd, o.mStep⟩,
    ⟨o.tauStart, o.tauEnd, o.tauStep⟩⟩

structure SearchSlots where
  parties : Option UInt32
  securityBits : Option Int32
  mStart : Option UInt32
  mEnd : Option UInt32
  mStep : Option UInt32
  tauStart : Option UInt32
  tauEnd : Option UInt32
  tauStep : Option UInt32
  verbose : Bool
  exportJson : Option String

def SearchSlots.none : SearchSlots :=
  ⟨.none, .none, .none, .none, .none, .none, .none, .none, false, .none⟩

def SearchSlots.options (s : SearchSlots) : SearchOptions where
  parties := s.parties.getD Config.defaultParties
  securityBits := s.securityBits.getD (Int32.ofInt Config.defaultSecurityBits)
  mStart := s.mStart.getD 64
  mEnd := s.mEnd.getD 512
  mStep := s.mStep.getD 8
  tauStart := s.tauStart.getD 8
  tauEnd := s.tauEnd.getD 50
  tauStep := s.tauStep.getD 8
  verbose := s.verbose
  exportJson := s.exportJson

def helpOption : Opt σ := .stop "help" 'h' .helpAsked

def searchGrammar : Grammar SearchSlots where
  options := [
    .slot "parties" (some 'n') (·.parties) (fun s a => { s with parties := some a }) word32Value,
    .slot "security-bits" none (·.securityBits) (fun s a => { s with securityBits := some a })
      int32Value,
    .slot "m-start" none (·.mStart) (fun s a => { s with mStart := some a }) word32Value,
    .slot "m-end" none (·.mEnd) (fun s a => { s with mEnd := some a }) word32Value,
    .slot "m-step" none (·.mStep) (fun s a => { s with mStep := some a }) word32Value,
    .slot "tau-start" none (·.tauStart) (fun s a => { s with tauStart := some a }) word32Value,
    .slot "tau-end" none (·.tauEnd) (fun s a => { s with tauEnd := some a }) word32Value,
    .slot "tau-step" none (·.tauStep) (fun s a => { s with tauStep := some a }) word32Value,
    ⟨"verbose", some 'v', false, (·.verbose), fun s _ => .ok { s with verbose := true }⟩,
    .slot "export-json" none (·.exportJson) (fun s a => { s with exportJson := some a }) pathValue,
    helpOption]
  operand := none

structure LogSlots where
  input : Option String
  output : Option String
  names : Option String

def LogSlots.none : LogSlots := ⟨.none, .none, .none⟩

def LogSlots.options (s : LogSlots) : LogOptions :=
  ⟨s.input.getD "all_bench.txt", s.output.getD "all_bench.csv", s.names⟩

def logGrammar : Grammar LogSlots where
  options := [
    .slot "input" (some 'i') (·.input) (fun s a => { s with input := some a }) pathValue,
    .slot "output" (some 'o') (·.output) (fun s a => { s with output := some a }) pathValue,
    .slot "names" none (·.names) (fun s a => { s with names := some a }) pathValue,
    helpOption]
  operand := none

def showGrammar : Grammar (Option String) where
  options := [helpOption]
  operand := some (.slot "" none id (fun _ a => some a) pathValue)

/-- The options before a command: both stop the reading. -/
def topGrammar : Grammar Unit where
  options := [helpOption, .stop "version" 'V' .versionAsked]
  operand := none

namespace Command

def names : List String := ["search", "parse-log", "show", "help"]

/-- What `help` answers: the help of a command, if the rest names one. -/
def readHelp : List String → Refusal
  | [] => .helpAsked
  | [name] => if name ∈ names then .helpAsked else .unknownCommand
  | _ => .unknownCommand

/-- The command of a name, from the arguments behind it. -/
def readNamed? (name : String) (args : List String) : Option (Except Refusal Command) :=
  match name with
  | "search" => some do return .search (← searchGrammar.read .none args).options
  | "parse-log" => some do return .parseLog (← logGrammar.read .none args).options
  | "show" => some do
    match ← showGrammar.read none args with
    | some path => return .show path
    | none => throw .missingOperand
  | "help" => some (.error (readHelp args))
  | _ => none

/-- After `--` no command can be named any more. -/
def readOperands : List String → Refusal
  | [] => .noCommand
  | arg :: _ => if arg ∈ names then .unknownArgument else .unknownCommand

def read (args : List String) : Except Refusal Command :=
  match args with
  | [] => .error .noCommand
  | arg :: rest =>
    match readNamed? arg rest with
    | some command => command
    | none =>
      if arg = "--" then .error (readOperands rest)
      else
        match topGrammar.readArgument ⟨(), none, false, false⟩ arg with
        | .error .unknownArgument =>
          if arg ≠ "-" ∧ arg.startsWith "-" then .error .unknownArgument
          else .error .unknownCommand
        | .error r => .error r
        | .ok _ => read rest

/-- Arguments that ask for the help or version of the whole program. -/
def topLevel : List String := ["-h", "--help", "-V", "--version", "help"]

end Command

/-- No arguments, or a leading option, mean the command `search`. -/
def withDefaultCommand : List String → List String
  | [] => ["search"]
  | arg :: rest =>
    if arg ∉ Command.topLevel ∧ arg.startsWith "-" then "search" :: arg :: rest else arg :: rest

end CutAndChoose.CommandLine
