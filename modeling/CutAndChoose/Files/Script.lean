import CutAndChoose.Files.Directory

/-!
# CutAndChoose.Files.Script

Computations that read and write files, as data: each step names the file and says how to go on
with the answer. A script runs on a `Directory`, or is carried out by a program.

* `Script.run`: the result and the tree after it.
-/

namespace CutAndChoose

inductive Script (α : Type) where
  | done (a : α)
  | read (path : String) (next : Except FileFault ByteArray → Script α)
  | write (path : String) (bytes : ByteArray) (next : Except FileFault Unit → Script α)

namespace Script

def bind : Script α → (α → Script β) → Script β
  | done a, f => f a
  | read path next, f => read path fun r => (next r).bind f
  | write path bytes next, f => write path bytes fun r => (next r).bind f

instance : Monad Script where
  pure := done
  bind := bind

def readFile (path : String) : Script (Except FileFault ByteArray) := read path done

def writeFile (path : String) (bytes : ByteArray) : Script (Except FileFault Unit) :=
  write path bytes done

def run : Script α → Directory → α × Directory
  | done a, d => (a, d)
  | read path next, d => (next (d.read path)).run d
  | write path bytes next, d =>
    match d.write path bytes with
    | .ok d' => (next (.ok ())).run d'
    | .error f => (next (.error f)).run d

/-- A script that goes on with another one runs it on the tree that the first one leaves. -/
theorem run_bind (s : Script α) (f : α → Script β) (d : Directory) :
    (s.bind f).run d = (f (s.run d).1).run (s.run d).2 := by
  induction s generalizing d with
  | done a => rfl
  | read path next ih => exact ih (d.read path) d
  | write path bytes next ih =>
    simp only [bind, run]
    split
    · rename_i d' _
      exact ih (.ok ()) d'
    · rename_i f' _
      exact ih (.error f') d

end Script

end CutAndChoose
