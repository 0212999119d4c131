/-!
# CutAndChoose.Text.Ranges

Character classes given by closed ranges of code points.
-/

namespace CutAndChoose

def inRanges (ranges : List (Nat × Nat)) (c : Char) : Bool :=
  ranges.any fun (first, last) => first ≤ c.toNat && c.toNat ≤ last

end CutAndChoose
