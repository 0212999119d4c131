import CutAndChoose.Binary64.Basic

/-!
# CutAndChoose.Bench.Measurement

One row of the benchmark table: a circuit, the size of its serialized proof in bytes and the
proving time in milliseconds.
-/

namespace CutAndChoose

structure Measurement where
  circuit : String
  sizeBytes : UInt64
  timeMs : Binary64
  deriving DecidableEq

end CutAndChoose
