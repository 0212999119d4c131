import CutAndChoose.Bench.Measurement
import CutAndChoose.Decimal.Fixed

/-!
# CutAndChoose.Bench.Summary

One line about a written benchmark table: the number of rows, the file and the total proving time.
-/

namespace CutAndChoose

/-- Total time of the rows, added from the first on. The empty sum is the negative zero, which
leaves every first term as it is. -/
def totalTime (rows : List Measurement) : Binary64 :=
  rows.foldl (fun total row => total + row.timeMs) Binary64.zero.neg

def summaryText (rows : List Measurement) (path : String) : String :=
  let total := String.ofList ((totalTime rows).fixedText 2)
  s!"Wrote {rows.length} rows to {path} (total {total} ms)"

end CutAndChoose
