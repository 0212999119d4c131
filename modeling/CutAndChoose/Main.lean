import CutAndChoose.Command.Program

/-!
# CutAndChoose.Main

The program `kkw`: arguments and a log setting from the environment in, standard output, standard
error and an exit code out. Files are read and written here and nowhere else.
-/

namespace CutAndChoose

def fileFault : IO.Error → FileFault
  | .noFileOrDirectory .. => .notFound
  | .inappropriateType _ 20 _ => .notDirectory
  | .inappropriateType _ 21 _ => .isDirectory
  | e => .other (toString e)

def carryOut : Script α → IO α
  | .done a => pure a
  | .read path next => do
    let answer ← (IO.FS.readBinFile path).toBaseIO
    carryOut (next (answer.mapError fileFault))
  | .write path bytes next => do
    let answer ← (IO.FS.writeBinFile path bytes).toBaseIO
    carryOut (next (answer.mapError fileFault))

end CutAndChoose

open CutAndChoose

def main (args : List String) : IO UInt32 := do
  let exit ← carryOut (program args (← IO.getEnv "RUST_LOG"))
  IO.print exit.stdout
  IO.eprint exit.stderr
  return exit.code.toUInt32
