import CutAndChoose.Command.Run

/-!
# CutAndChoose.Command.Program

The whole program as a script: from arguments and log setting to an exit. Help and version are
answers on standard output, every other refusal is explained on standard error.

What is idealized:

* Memory and time are unlimited, so a grid of any size is searched.
* Arguments are Unicode text; with any other argument the program would abort before it reads them.
  A log setting that is no Unicode text counts as none.
* Standard output and standard error take all that is written to them.
* Files stand in a `Directory`, without links and permissions, and nothing else changes them during
  a run.
* Help, usage and the message of an abort have words of their own, and the lines of the log have
  neither times nor colours. The lines that an aborted search has written before are left out.
-/

namespace CutAndChoose

open CommandLine

def helpLines : List String := [
  "KKW soundness parameter search and benchmark log tools",
  "",
  "Usage: kkw <COMMAND>",
  "",
  "Commands:",
  "  search     Search (M, tau) for the fewest repetitions meeting the security target (default)",
  "  parse-log  Turn a benchmark log into a CSV of sizes and timings",
  "  show       Print the candidate table of a previously exported search",
  "  help       Print this message"]

def helpText : String := "\n".intercalate helpLines ++ "\n"

def versionText : String := "kkw 0.1.0\n"

def usageText : String := "error: invalid arguments\n\nFor more information, try '--help'.\n"

def CommandLine.Refusal.exit (r : Refusal) : Exit :=
  match r with
  | .helpAsked => ⟨r.exitCode, helpText, ""⟩
  | .versionAsked => ⟨r.exitCode, versionText, ""⟩
  | _ => ⟨r.exitCode, "", usageText⟩

def program (args : List String) (log : Option String) : Script Exit :=
  match invoke args log with
  | .ok script => script
  | .error r => .done r.exit

end CutAndChoose
