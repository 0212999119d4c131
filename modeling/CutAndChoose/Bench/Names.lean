import CutAndChoose.Text.Blank
import CutAndChoose.Text.Lines

/-!
# CutAndChoose.Bench.Names

Circuit names in the order in which the benchmark runs the circuits: the built-in suite, or the
lines of a names file without surrounding blanks and without blank lines.
-/

namespace CutAndChoose

def suiteNames : List String := [
  "amortized_aco_512_12.txt",
  "amortized_aco_128_9.txt",
  "amortized_aco_128_8.txt",
  "amortized_aco_64_8.txt",
  "amortized_aco_64_9.txt",
  "amortized_aco_256_9.txt",
  "amortized_aco_256_10.txt",
  "amortized_aco_512_7.txt",
  "amortized_aco_512_11.txt",
  "amortized_aco_512_9.txt",
  "amortized_aco_128_10.txt",
  "amortized_aco_128_11.txt",
  "amortized_aco_128_12.txt",
  "amortized_aco_256_12.txt",
  "amortized_aco_256_11.txt",
  "amortized_aco_256_8.txt",
  "amortized_aco_64_12.txt",
  "amortized_aco_512_10.txt",
  "amortized_aco_64_11.txt",
  "amortized_aco_128_7.txt",
  "amortized_aco_512_8.txt",
  "amortized_aco_256_7.txt",
  "amortized_aco_64_7.txt",
  "amortized_aco_64_10.txt",
  "amortized_akv.txt"]

def namesOf (text : String) : List String :=
  ((textLines text.toList).map trimBlanks).filter (· ≠ []) |>.map String.ofList

end CutAndChoose
