import Mathlib
import CutAndChoose.Files.Script
import CutAndChoose.Proofs.Files.Directory

/-!
# CutAndChoose.Proofs.Files.Script

Scripts that write a file, and what the file holds afterwards.
-/

namespace CutAndChoose

/-- Encoded text is decoded to itself. -/
theorem fromUTF8?_toUTF8 (text : String) : String.fromUTF8? text.toUTF8 = some text := by
  unfold String.fromUTF8?
  rw [String.toUTF8_eq_toByteArray, dif_pos text.isValidUTF8]
  rfl

namespace Script

variable {ε : Type} {d d' : Directory}

/-- A write whose faults are translated. -/
def writeOr (path : String) (bytes : ByteArray) (fault : FileFault → ε) :
    Script (Except ε Unit) :=
  (writeFile path bytes).bind fun r => done (r.mapError fault)

theorem run_writeOr (path : String) (bytes : ByteArray) (fault : FileFault → ε) (d : Directory) :
    (writeOr path bytes fault).run d =
      match d.write path bytes with
      | .ok d' => (.ok (), d')
      | .error f => (.error (fault f), d) := by
  show (Script.write path bytes _).run d = _
  rw [run]
  cases d.write path bytes with
  | ok d' => rfl
  | error f => rfl

/-- A write that succeeds leaves its bytes at the path. -/
theorem read_of_writeOr {path : String} {bytes : ByteArray} {fault : FileFault → ε}
    (h : (writeOr path bytes fault).run d = (.ok (), d')) : d'.read path = .ok bytes := by
  rw [run_writeOr] at h
  cases hwrite : d.write path bytes with
  | error f =>
    rw [hwrite] at h
    cases h
  | ok next =>
    rw [hwrite] at h
    cases h
    exact Directory.read_write hwrite

end Script

end CutAndChoose
