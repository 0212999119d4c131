import CutAndChoose.Bench.Log
import CutAndChoose.Files.Fault
import CutAndChoose.Json.Fault
import CutAndChoose.Search.Outcome

/-!
# CutAndChoose.Command.Fault

Why a command fails, and the exit code and message of each cause. Only files that cannot be
created count as output failures.
-/

namespace CutAndChoose

inductive CommandFault where
  | search (fault : SearchFault)
  | log (fault : LogFault)
  | namesUnreadable (path : String) (fault : TextFault)
  | namesEmpty (path : String)
  | logUnreadable (path : String) (fault : TextFault)
  | outcomeNotOpened (path : String) (fault : FileFault)
  /-- The file was opened, but its bytes cannot be read. -/
  | outcomeUnreadable (fault : FileFault)
  | outcomeInvalid (fault : Json.Fault)
  | tableNotCreated (path : String) (fault : FileFault)
  | outcomeNotCreated (path : String) (fault : FileFault)
  deriving DecidableEq

namespace CommandFault

def failure : CommandFault → Failure
  | search f => f.failure
  | log f => f.failure
  | namesUnreadable path f => .input s!"Failed to read names file '{path}': {f.message}"
  | namesEmpty path => .input s!"Names file '{path}' is empty."
  | logUnreadable path f => .input s!"Failed to read log '{path}': {f.message}"
  | outcomeNotOpened path f => .input s!"Failed to open outcome JSON '{path}': {f.message}"
  | outcomeUnreadable f => .input s!"Invalid outcome JSON: {f.message}"
  | outcomeInvalid f => .input s!"Invalid outcome JSON: {f.message}"
  | tableNotCreated path f => .output s!"Failed to create export CSV '{path}': {f.message}"
  | outcomeNotCreated path f => .output s!"Failed to create outcome JSON '{path}': {f.message}"

end CommandFault

end CutAndChoose
