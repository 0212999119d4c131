import CutAndChoose.Binary64.Log2
import CutAndChoose.Decimal.Fixed
import CutAndChoose.Search.Outcome
import CutAndChoose.Text.Pad

/-!
# CutAndChoose.Search.Listing

What is printed of a search: the selected pair, and the listing of the accepted pairs under the
settings of the search.

* `resultText`: the selected pair.
* `Outcome.text`: settings, counts and one line per accepted pair, the best one starred.
-/

namespace CutAndChoose

/-- A progress line, then the selected pair. -/
def resultText (best : Params) : String := s!"finish computing\n{best.text}"

def Sweep.text (s : Sweep) : String :=
  s!"[{s.start.toNat}, {s.stop.toNat}) step {s.step.toNat}"

def settingsLine (c : Config) : String :=
  let target := String.ofList (c.target.log2.fixedText 1)
  s!"n={c.parties.toNat} | target=2^{target} | M={c.mSweep.text} | tau={c.tauSweep.text}\n"

/-- The binary logarithm of an error; errors that are not positive have none. -/
def logText (p : Binary64) : List Char :=
  if Binary64.zero.lt p then p.log2.fixedText 2 else "-inf".toList

/-- Columns of the listing: a mark, `m`, `tau` and the logarithm of the error. -/
def listingLine (mark m tau log : List Char) : List Char :=
  alignLeft 2 mark ++ alignRight 6 m ++ ' ' :: alignRight 6 tau ++ ' ' ::
    alignRight 14 log ++ ['\n']

def listingHead : List Char :=
  listingLine [] "M".toList "tau".toList "log2(err)".toList ++
    listingLine [] (List.replicate 6 '-') (List.replicate 6 '-') (List.replicate 14 '-')

def acceptedLine (best : Params) (e : Evaluation) : List Char :=
  listingLine (if e.params = best then ['*'] else []) (decimalDigits e.params.m.toNat)
    (decimalDigits e.params.tau.toNat) (logText e.worstError)

def countsLine (o : Outcome) : String :=
  s!"Evaluated {o.evaluations.length} pairs, accepted {o.accepted.length}\n"

/-- Settings, counts, and the accepted pairs in search order. -/
def Outcome.text (o : Outcome) : String :=
  settingsLine o.config ++ countsLine o ++
    if o.accepted.isEmpty then "No pair reaches the target.\n"
    else
      String.ofList (listingHead ++
        (o.evaluations.filter (·.accepted)).flatMap (acceptedLine o.best))

end CutAndChoose
