import CutAndChoose.Text.Quoted

/-!
# CutAndChoose.Failure

What a command that fails reports: a process exit code and a message. Each part of the library has
its own type of causes and turns a cause into a `Failure` in one place.
-/

namespace CutAndChoose

structure Failure where
  exitCode : UInt8
  message : String
  deriving DecidableEq

namespace Failure

/-- Invalid arguments, unreadable or malformed input. -/
def input (message : String) : Failure := ⟨2, message⟩

def output (message : String) : Failure := ⟨4, message⟩

/-- Both fields with the message quoted, on one line. -/
def inspect (f : Failure) : String :=
  "AppError \x7b exit_code: " ++ toString f.exitCode.toNat ++ ", message: " ++
    quotedText f.message ++ " \x7d"

end Failure

end CutAndChoose
